import RowQuery.Proofs.Wire.Records

/-!
# Members in any order

A record's members are read one after the other, and the slots are filled on the way. This file
says which slots are filled by which members without going through them in order: `Fills` builds
the slots up from the members, one filled slot for each member that is known, and does not care
which of two members comes first. So the members of a record can be put in any order, and what is
done to one member can be done to the first.

A record may also be sent as a list of contents. What is shared by both forms is that the content
of one field can be replaced: as long as the other content can be read, it fills the slot instead.
-/

namespace RowQuery

namespace RecordFormat

variable {Field : Type} {format : RecordFormat Field} {room : Nat}

/-- Slots put together from some that were filled before and some that are filled now. -/
def joined (start slots : format.Slots) : format.Slots :=
  fun field => (slots field).or (start field)

theorem joined_noSlots (slots : format.Slots) : joined format.noSlots slots = slots :=
  funext fun _ => Option.or_none

/-- Slots of which at most one of two is filled. -/
def Apart (start slots : format.Slots) : Prop := ∀ field, start field = none ∨ slots field = none

variable [DecidableEq Field]

theorem fill_fill (slots : format.Slots) (field : Field)
    (content other : format.Content field) :
    format.fill (format.fill slots field content) field other = format.fill slots field other := by
  funext found
  by_cases same : field = found
  · subst same
    rw [fill_same, fill_same]
  · rw [fill_other format _ other same, fill_other format _ content same,
      fill_other format _ other same]

theorem fill_comm (slots : format.Slots) {field other : Field} (different : field ≠ other)
    (content : format.Content field) (otherContent : format.Content other) :
    format.fill (format.fill slots field content) other otherContent =
      format.fill (format.fill slots other otherContent) field content := by
  funext found
  by_cases same : field = found
  · subst same
    rw [fill_same, fill_other format _ otherContent (Ne.symm different), fill_same]
  · rw [fill_other format (format.fill slots other otherContent) content same]
    by_cases otherSame : other = found
    · subst otherSame
      rw [fill_same, fill_same]
    · rw [fill_other format _ otherContent otherSame, fill_other format _ otherContent otherSame,
        fill_other format _ content same]

/-- A slot that holds a content already is not changed by filling it with this content. -/
theorem fill_eq_self {slots : format.Slots} {field : Field} {content : format.Content field}
    (filled : slots field = some content) : format.fill slots field content = slots := by
  funext found
  by_cases same : field = found
  · subst same
    rw [fill_same, filled]
  · rw [fill_other format slots content same]

theorem fill_eq_none {slots : format.Slots} {field other : Field}
    {content : format.Content field} :
    format.fill slots field content other = none ↔ field ≠ other ∧ slots other = none := by
  by_cases same : field = other
  · subst same
    simp
  · rw [fill_other format slots content same]
    exact (and_iff_right same).symm

/-- The slots that some members fill. Each of them is filled once. -/
inductive Fills (format : RecordFormat Field) (room : Nat) :
    List (Key × Document) → format.Slots → Prop where
  | nil : Fills format room [] format.noSlots
  | unknown {name : String} {document : Document} {members : List (Key × Document)}
      {slots : format.Slots} (unknown : format.field? name = none)
      (tolerated : format.closed = false) (whole : document.whole = true)
      (others : Fills format room members slots) :
      Fills format room ((some name, document) :: members) slots
  | known {name : String} {document : Document} {members : List (Key × Document)}
      {slots : format.Slots} {field : Field} {content : format.Content field}
      (named : format.field? name = some field)
      (read : format.content field room document = .ok content) (free : slots field = none)
      (others : Fills format room members slots) :
      Fills format room ((some name, document) :: members) (format.fill slots field content)

section Head

variable {name : String} {document : Document} {members : List (Key × Document)}
  {slots start : format.Slots}

theorem fills_unknown_iff (unknown : format.field? name = none) :
    format.Fills room ((some name, document) :: members) slots ↔
      format.closed = false ∧ document.whole = true ∧ format.Fills room members slots := by
  constructor
  · intro fills
    cases fills with
    | unknown _ tolerated whole others => exact ⟨tolerated, whole, others⟩
    | known named _ _ _ =>
        rw [unknown] at named
        cases named
  · rintro ⟨tolerated, whole, others⟩
    exact .unknown unknown tolerated whole others

theorem fills_known_iff {field : Field} (named : format.field? name = some field) :
    format.Fills room ((some name, document) :: members) slots ↔
      ∃ content rest, format.content field room document = .ok content ∧ rest field = none ∧
        format.Fills room members rest ∧ slots = format.fill rest field content := by
  constructor
  · intro fills
    cases fills with
    | unknown unknown _ _ _ =>
        rw [named] at unknown
        cases unknown
    | known found read free others =>
        rw [named] at found
        cases found
        exact ⟨_, _, read, free, others, rfl⟩
  · rintro ⟨content, rest, read, free, others, rfl⟩
    exact .known named read free others

theorem fillMembers_unknown_iff {result : format.Slots} (unknown : format.field? name = none) :
    format.fillMembers room start ((some name, document) :: members) = .ok result ↔
      format.closed = false ∧ document.whole = true ∧
        format.fillMembers room start members = .ok result := by
  rw [fillMembers, unknown]
  cases format.closed with
  | true => simp
  | false =>
      cases document.whole with
      | true => simp
      | false => simp

theorem fillMembers_known_iff {result : format.Slots} {field : Field}
    (named : format.field? name = some field) :
    format.fillMembers room start ((some name, document) :: members) = .ok result ↔
      start field = none ∧ ∃ content, format.content field room document = .ok content ∧
        format.fillMembers room (format.fill start field content) members = .ok result := by
  rw [fillMembers, named]
  cases filled : start field with
  | some found => simp [filled]
  | none =>
      simp only [filled, Option.isSome_none, Bool.false_eq_true, if_false, true_and]
      exact bind_eq_ok

end Head

theorem joined_fill {start slots : format.Slots} {field : Field} (content : format.Content field)
    (free : slots field = none) :
    joined (format.fill start field content) slots =
      joined start (format.fill slots field content) := by
  funext found
  rw [joined, joined]
  by_cases same : field = found
  · subst same
    rw [fill_same, fill_same, free, Option.none_or, Option.some_or]
  · rw [fill_other format _ content same, fill_other format _ content same]

theorem apart_fill_iff {start slots : format.Slots} {field : Field}
    (content : format.Content field) :
    Apart (format.fill start field content) slots ∧ start field = none ↔
      Apart start (format.fill slots field content) ∧ slots field = none := by
  constructor
  · rintro ⟨apart, free⟩
    have otherFree : slots field = none := by
      rcases apart field with filled | free
      · rw [fill_same] at filled
        cases filled
      · exact free
    refine ⟨fun found => ?_, otherFree⟩
    by_cases same : field = found
    · subst same
      exact .inl free
    · have kept := apart found
      rwa [fill_other format _ content same] at kept ⊢
  · rintro ⟨apart, free⟩
    have otherFree : start field = none := by
      rcases apart field with free | filled
      · exact free
      · rw [fill_same] at filled
        cases filled
    refine ⟨fun found => ?_, otherFree⟩
    by_cases same : field = found
    · subst same
      exact .inr free
    · have kept := apart found
      rwa [fill_other format _ content same] at kept ⊢

/--
Reading members from the left fills the slots that they fill, beside those filled before. A slot is
filled ahead of the rest on one side and together with the rest on the other.
-/
theorem fillMembers_eq_ok_iff {start result : format.Slots} {members : List (Key × Document)} :
    format.fillMembers room start members = .ok result ↔
      ∃ slots, format.Fills room members slots ∧ Apart start slots ∧
        result = joined start slots := by
  induction members generalizing start with
  | nil =>
      constructor
      · intro read
        cases read
        exact ⟨format.noSlots, .nil, fun _ => .inr rfl, rfl⟩
      · rintro ⟨_, ⟨⟩, _, rfl⟩
        rfl
  | cons member members ih =>
      rcases member with ⟨_ | name, document⟩
      · constructor
        · intro read
          cases read
        · rintro ⟨_, ⟨⟩, _⟩
      · cases named : format.field? name with
        | none =>
            rw [fillMembers_unknown_iff named, ih]
            constructor
            · rintro ⟨tolerated, whole, slots, others, apart, equal⟩
              exact ⟨slots, .unknown named tolerated whole others, apart, equal⟩
            · rintro ⟨slots, fills, apart, equal⟩
              rcases (fills_unknown_iff named).mp fills with ⟨tolerated, whole, others⟩
              exact ⟨tolerated, whole, slots, others, apart, equal⟩
        | some field =>
            rw [fillMembers_known_iff named]
            simp only [ih]
            constructor
            · rintro ⟨free, content, read, slots, others, apart, equal⟩
              rcases (apart_fill_iff content).mp ⟨apart, free⟩ with ⟨apart, slotFree⟩
              rw [joined_fill content slotFree] at equal
              exact ⟨_, .known named read slotFree others, apart, equal⟩
            · rintro ⟨slots, fills, apart, equal⟩
              rcases (fills_known_iff named).mp fills with ⟨content, rest, read, free, others, rfl⟩
              rcases (apart_fill_iff content).mpr ⟨apart, free⟩ with ⟨apart, startFree⟩
              rw [← joined_fill content free] at equal
              exact ⟨startFree, content, read, rest, others, apart, equal⟩

theorem slots_object {members : List (Key × Document)} {slots : format.Slots} :
    format.slots (room + 1) (.object members) = .ok slots ↔ format.Fills room members slots := by
  rw [RecordFormat.slots, fillMembers_eq_ok_iff]
  constructor
  · rintro ⟨found, fills, _, rfl⟩
    rwa [joined_noSlots]
  · intro fills
    exact ⟨slots, fills, fun _ => .inl rfl, (joined_noSlots slots).symm⟩

/-- The order of the members does not matter. -/
theorem Fills.perm {members others : List (Key × Document)} {slots : format.Slots}
    (fills : format.Fills room members slots) (same : members.Perm others) :
    format.Fills room others slots := by
  induction same generalizing slots with
  | nil => exact fills
  | cons member _ ih =>
      cases fills with
      | unknown unknown tolerated whole others =>
          exact .unknown unknown tolerated whole (ih others)
      | known named read free others => exact .known named read free (ih others)
  | swap second first members =>
      cases fills with
      | unknown unknown tolerated whole others =>
          cases others with
          | unknown otherUnknown _ otherWhole others =>
              exact .unknown otherUnknown tolerated otherWhole
                (.unknown unknown tolerated whole others)
          | known named read free others =>
              exact .known named read free (.unknown unknown tolerated whole others)
      | known named read free others =>
          cases others with
          | unknown otherUnknown tolerated whole others =>
              exact .unknown otherUnknown tolerated whole (.known named read free others)
          | known otherNamed otherRead otherFree others =>
              rcases fill_eq_none.mp free with ⟨different, free⟩
              rw [fill_comm _ different]
              exact .known otherNamed otherRead (fill_eq_none.mpr ⟨different.symm, otherFree⟩)
                (.known named read free others)
  | trans _ _ ih₁ ih₂ => exact ih₂ (ih₁ fills)

/-- Two records that differ in what they have as the content of one field. -/
inductive Replaces (format : RecordFormat Field) (field : Field) (content other : Document) :
    Document → Document → Prop where
  | member {name : String} (before after : List (Key × Document))
      (named : format.field? name = some field) :
      Replaces format field content other (.object (before ++ (some name, content) :: after))
        (.object (before ++ (some name, other) :: after))
  | item (before after : List Document) (placed : format.fields[before.length]? = some field) :
      Replaces format field content other (.list (before ++ content :: after))
        (.list (before ++ other :: after))

/-- Items do not touch the slot of a field that is not among theirs. -/
theorem fillItems_fill {field : Field} (value : format.Content field) {start : format.Slots}
    {fields : List Field} {items : List Document} (absent : field ∉ fields) :
    format.fillItems room (format.fill start field value) fields items =
      (format.fillItems room start fields items).map fun slots =>
        format.fill slots field value := by
  induction fields generalizing start items with
  | nil =>
      cases items with
      | nil => rfl
      | cons first others => rfl
  | cons next fields ih =>
      rw [List.mem_cons, not_or] at absent
      cases items with
      | nil =>
          rw [fillItems, fillItems]
          split
          · rfl
          · exact ih absent.2
      | cons first others =>
          rw [fillItems, fillItems]
          cases format.content next room first with
          | error fault => rfl
          | ok content =>
              change format.fillItems room
                (format.fill (format.fill start field value) next content) fields others = _
              rw [fill_comm start absent.1]
              exact ih absent.2

theorem fillItems_replace {field : Field} {content : Document} {start slots : format.Slots}
    {fields : List Field} (distinct : fields.Nodup) {before after : List Document}
    (placed : fields[before.length]? = some field)
    (read : format.fillItems room start fields (before ++ content :: after) = .ok slots) :
    ∃ value, format.content field room content = .ok value ∧ slots field = some value ∧
      ∀ other otherValue, format.content field room other = .ok otherValue →
        format.fillItems room start fields (before ++ other :: after) =
          .ok (format.fill slots field otherValue) := by
  induction before generalizing start fields with
  | nil =>
      cases fields with
      | nil => cases placed
      | cons first fields =>
          cases placed
          rw [List.nodup_cons] at distinct
          rcases bind_eq_ok.mp read with ⟨value, readContent, further⟩
          have further := (fillItems_fill value distinct.1).symm.trans further
          rcases map_eq_ok.mp further with ⟨kept, others, rfl⟩
          refine ⟨value, readContent, fill_same .., fun other otherValue readOther => ?_⟩
          rw [List.nil_append, fillItems, readOther, fill_fill]
          refine (fillItems_fill otherValue distinct.1).trans ?_
          rw [others]
          rfl
  | cons first before ih =>
      cases fields with
      | nil => cases placed
      | cons next fields =>
          rcases bind_eq_ok.mp read with ⟨found, readFirst, further⟩
          rcases ih (List.nodup_cons.mp distinct).2 placed further with
            ⟨value, readContent, filled, replaced⟩
          refine ⟨value, readContent, filled, fun other otherValue readOther => ?_⟩
          rw [List.cons_append, fillItems, readFirst]
          exact replaced other otherValue readOther

/-- Another content of a field fills its slot, and leaves the other slots as they were. -/
theorem slots_replace (distinct : format.fields.Nodup) {field : Field}
    {content other document edited : Document} {slots : format.Slots}
    (replaces : format.Replaces field content other document edited)
    (read : format.slots (room + 1) document = .ok slots) :
    ∃ value, format.content field room content = .ok value ∧ slots field = some value ∧
      ∀ otherValue, format.content field room other = .ok otherValue →
        format.slots (room + 1) edited = .ok (format.fill slots field otherValue) := by
  cases replaces with
  | member before after named =>
      have fills := (slots_object.mp read).perm List.perm_middle
      rcases (fills_known_iff named).mp fills with ⟨value, rest, readContent, free, others, rfl⟩
      refine ⟨value, readContent, fill_same .., fun otherValue readOther => ?_⟩
      rw [fill_fill]
      exact slots_object.mpr
        ((Fills.known named readOther free others).perm List.perm_middle.symm)
  | item before after placed =>
      rcases fillItems_replace distinct placed read with ⟨value, readContent, filled, replaced⟩
      exact ⟨value, readContent, filled, replaced other⟩

end RecordFormat

end RowQuery
