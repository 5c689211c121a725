import Mathlib.Data.List.Nodup
import Mathlib.Data.List.Perm.Basic
import RowQuery.Proofs.Wire.Members

/-!
# Edits of documents

Two documents that differ may be read as the same value. An edit is a small step from one
document to another; a decoder keeps an edit if what was read before is still read after it.

This file has the edits of records: members change places, a field is sent under another of its
names, a member with an unknown name is added, a member is left out whose content is what a
record without it is assumed to have. A decoder of records keeps them all, and it keeps the edits
that the decoders of its contents keep. Lists and maps keep the edits of what they hold.
-/

namespace RowQuery

/-- A relation of documents to edited ones, with room for so many levels of nesting. -/
abbrev DocumentEdit := Nat → Document → Document → Prop

namespace Document

/-- No document is edited. -/
def Unedited : DocumentEdit := fun _ _ _ => False

/-- One item of a list is edited. -/
inductive ItemEdit (edit : DocumentEdit) : DocumentEdit where
  | item {room : Nat} {content other : Document} (before after : List Document)
      (edited : edit room content other) :
      ItemEdit edit (room + 1) (.list (before ++ content :: after))
        (.list (before ++ other :: after))

/-- What stands under one name of an object is edited. -/
inductive MemberEdit (edit : DocumentEdit) : DocumentEdit where
  | member {room : Nat} {content other : Document} (before after : List (Key × Document))
      (key : Key) (edited : edit room content other) :
      MemberEdit edit (room + 1) (.object (before ++ (key, content) :: after))
        (.object (before ++ (key, other) :: after))

end Document

theorem forall₂_replace {α β : Type} {relation : α → β → Prop} {before after : List α}
    {first other : α} {results : List β}
    (related : List.Forall₂ relation (before ++ first :: after) results)
    (replaced : ∀ result, relation first result → relation other result) :
    List.Forall₂ relation (before ++ other :: after) results := by
  induction before generalizing results with
  | nil =>
      rcases related with _ | ⟨head, tail⟩
      exact .cons (replaced _ head) tail
  | cons _ _ ih =>
      rcases related with _ | ⟨head, tail⟩
      exact .cons head (ih tail)

namespace Decoder

variable {α : Type} {decoder : Decoder α} {edit : DocumentEdit}

/-- What was read of a document is read of the edited one. -/
def Keeps (decoder : Decoder α) (edit : DocumentEdit) : Prop :=
  ∀ ⦃room document edited value⦄, edit room document edited →
    decoder room document = .ok value → decoder room edited = .ok value

theorem keeps_unedited (decoder : Decoder α) : decoder.Keeps Document.Unedited :=
  fun _ _ _ _ => False.elim

theorem items_eq_ok_iff {room : Nat} {found : List Document} {values : List α} :
    decoder.items room found = .ok values ↔
      List.Forall₂ (fun item value => decoder room item = .ok value) found values := by
  induction found generalizing values with
  | nil =>
      rw [List.forall₂_nil_left_iff, items, Except.ok.injEq]
      exact eq_comm
  | cons first others ih =>
      rw [List.forall₂_cons_left_iff, items, bind_eq_ok]
      simp only [bind_eq_ok, ih, pure, Except.pure, Except.ok.injEq]
      constructor
      · rintro ⟨value, read, rest, others, rfl⟩
        exact ⟨value, rest, read, others, rfl⟩
      · rintro ⟨value, rest, read, others, rfl⟩
        exact ⟨value, read, rest, others, rfl⟩

/-- A member is read as an entry. -/
def ReadsMember (decoder : Decoder α) (room : Nat) (member : Key × Document)
    (entry : String × α) : Prop :=
  member.1 = some entry.1 ∧ decoder room member.2 = .ok entry.2

theorem members_eq_ok_iff {room : Nat} {found : List (Key × Document)}
    {entries : List (String × α)} :
    decoder.members room found = .ok entries ↔
      List.Forall₂ (decoder.ReadsMember room) found entries := by
  induction found generalizing entries with
  | nil =>
      rw [List.forall₂_nil_left_iff, members, Except.ok.injEq]
      exact eq_comm
  | cons first others ih =>
      rw [List.forall₂_cons_left_iff]
      rcases first with ⟨_ | name, content⟩
      · constructor
        · intro read
          cases read
        · rintro ⟨_, _, ⟨named, _⟩, _⟩
          cases named
      · rw [members, bind_eq_ok]
        simp only [bind_eq_ok, ih, pure, Except.pure, Except.ok.injEq]
        constructor
        · rintro ⟨value, read, rest, others, rfl⟩
          exact ⟨(name, value), rest, ⟨rfl, read⟩, others, rfl⟩
        · rintro ⟨⟨_, value⟩, rest, ⟨named, read⟩, others, rfl⟩
          cases named
          exact ⟨value, read, rest, others, rfl⟩

theorem Keeps.list (keeps : decoder.Keeps edit) :
    (Decoder.list decoder).Keeps (Document.ItemEdit edit) := by
  intro room document edited values step read
  cases step with
  | item before after step =>
      exact items_eq_ok_iff.mpr
        (forall₂_replace (items_eq_ok_iff.mp read) fun _ read => keeps step read)

theorem Keeps.orderedMap (keeps : decoder.Keeps edit) :
    (Decoder.orderedMap decoder).Keeps (Document.MemberEdit edit) := by
  intro room document edited map step read
  cases step with
  | member before after key step =>
      rcases map_eq_ok.mp read with ⟨entries, read, equal⟩
      refine map_eq_ok.mpr ⟨entries, members_eq_ok_iff.mpr ?_, equal⟩
      exact forall₂_replace (members_eq_ok_iff.mp read) fun _ read =>
        ⟨read.1, keeps step read.2⟩

theorem names_of_readsMembers {room : Nat} {found : List (Key × Document)}
    {entries : List (String × α)} (each : List.Forall₂ (decoder.ReadsMember room) found entries) :
    (entries.map Prod.fst).map some = found.map Prod.fst := by
  induction each with
  | nil => rfl
  | cons head _ ih => rw [List.map_cons, List.map_cons, List.map_cons, ih, head.1]

/-- Members with different names are the entries of the map that is read of them. -/
theorem entries_ofList_of_readsMembers {room : Nat} {found : List (Key × Document)}
    {entries : List (String × α)} (distinct : (found.map Prod.fst).Nodup)
    (each : List.Forall₂ (decoder.ReadsMember room) found entries) :
    (OrderedMap.ofList entries).entries = entries := by
  rw [← names_of_readsMembers each] at distinct
  exact OrderedMap.entries_ofList (List.Nodup.of_map some distinct)

/-- A map whose members change places is read with its entries in the new order. -/
theorem orderedMap_perm {room : Nat} {found others : List (Key × Document)} {map : OrderedMap α}
    (distinct : (found.map Prod.fst).Nodup) (same : found.Perm others)
    (read : Decoder.orderedMap decoder room (.object found) = .ok map) :
    ∃ permuted : OrderedMap α,
      Decoder.orderedMap decoder room (.object others) = .ok permuted ∧
        permuted.entries.Perm map.entries ∧ permuted.keys.map some = others.map Prod.fst := by
  cases room with
  | zero => cases read
  | succ room =>
      rcases map_eq_ok.mp read with ⟨entries, readMembers, rfl⟩
      have each := members_eq_ok_iff.mp readMembers
      rcases List.perm_comp_forall₂ same.symm each with ⟨permuted, eachOther, permutes⟩
      have otherDistinct : (others.map Prod.fst).Nodup :=
        (same.map Prod.fst).nodup_iff.mp distinct
      refine ⟨.ofList permuted, map_eq_ok.mpr ⟨permuted, members_eq_ok_iff.mpr eachOther, rfl⟩,
        ?_, ?_⟩
      · rw [entries_ofList_of_readsMembers distinct each,
          entries_ofList_of_readsMembers otherDistinct eachOther]
        exact permutes
      · rw [OrderedMap.keys, entries_ofList_of_readsMembers otherDistinct eachOther]
        exact names_of_readsMembers eachOther

end Decoder

namespace RecordFormat

variable {Field α : Type} [DecidableEq Field] {format : RecordFormat Field}

/--
An edit of a record. The defaults are what the record is assumed to hold where nothing is sent,
and each field has edits of its own content. Names, unknown members and members that are left out
are edited at the front; `permute` brings any member there.
-/
inductive Edit (format : RecordFormat Field) (defaults : format.Slots)
    (inner : Field → DocumentEdit) : DocumentEdit where
  | permute {room : Nat} {members others : List (Key × Document)} (same : members.Perm others) :
      Edit format defaults inner (room + 1) (.object members) (.object others)
  | rename {room : Nat} {name other : String} {field : Field} (content : Document)
      (members : List (Key × Document)) (named : format.field? name = some field)
      (meant : format.field? other = some field) :
      Edit format defaults inner (room + 1) (.object ((some name, content) :: members))
        (.object ((some other, content) :: members))
  | add {room : Nat} {name : String} {content : Document} (members : List (Key × Document))
      (unknown : format.field? name = none) (whole : content.whole = true) :
      Edit format defaults inner (room + 1) (.object members)
        (.object ((some name, content) :: members))
  | leaveOut {room : Nat} {name : String} {content : Document} {field : Field}
      {value : format.Content field} (members : List (Key × Document))
      (named : format.field? name = some field)
      (read : format.content field room content = .ok value)
      (assumed : defaults field = some value) :
      Edit format defaults inner (room + 1) (.object ((some name, content) :: members))
        (.object members)
  | content {room : Nat} {field : Field} {content other document edited : Document}
      (changed : inner field room content other)
      (replaces : format.Replaces field content other document edited) :
      Edit format defaults inner (room + 1) document edited

/-- Filling an empty slot with what is assumed of it anyway makes no difference. -/
theorem joined_fill_default {defaults slots : format.Slots} {field : Field}
    {value : format.Content field} (assumed : defaults field = some value)
    (free : slots field = none) :
    joined defaults (format.fill slots field value) = joined defaults slots := by
  rw [← joined_fill value free, fill_eq_self assumed]

/-- An edited record is read, with the same contents up to the defaults. -/
theorem exists_slots_of_edit {defaults : format.Slots} {inner : Field → DocumentEdit}
    (distinct : format.fields.Nodup) (tolerant : format.closed = false)
    (keeps : ∀ field, (format.content field).Keeps (inner field)) {room : Nat}
    {document edited : Document} (edit : format.Edit defaults inner room document edited)
    {slots : format.Slots} (read : format.slots room document = .ok slots) :
    ∃ others, format.slots room edited = .ok others ∧
      joined defaults others = joined defaults slots := by
  cases edit with
  | permute same => exact ⟨slots, slots_object.mpr ((slots_object.mp read).perm same), rfl⟩
  | rename content members named meant =>
      rcases (fills_known_iff named).mp (slots_object.mp read) with
        ⟨value, rest, readContent, free, others, rfl⟩
      exact ⟨_, slots_object.mpr (.known meant readContent free others), rfl⟩
  | add members unknown whole =>
      exact ⟨slots, slots_object.mpr (.unknown unknown tolerant whole (slots_object.mp read)), rfl⟩
  | leaveOut members named readContent assumed =>
      rcases (fills_known_iff named).mp (slots_object.mp read) with
        ⟨value, rest, readAgain, free, others, rfl⟩
      rw [readContent] at readAgain
      cases readAgain
      exact ⟨rest, slots_object.mpr others, (joined_fill_default assumed free).symm⟩
  | content changed replaces =>
      rcases slots_replace distinct replaces read with ⟨value, readContent, filled, replaced⟩
      refine ⟨slots, ?_, rfl⟩
      rw [replaced value (keeps _ changed readContent), fill_eq_self filled]

/-- A decoder of records that builds them on the defaults keeps all edits. -/
theorem keeps_edit {defaults : format.Slots} {inner : Field → DocumentEdit}
    {build : format.Slots → Except Fault α} (distinct : format.fields.Nodup)
    (tolerant : format.closed = false)
    (keeps : ∀ field, (format.content field).Keeps (inner field))
    (builds : ∀ slots, build (joined defaults slots) = build slots) :
    (format.decode build).Keeps (format.Edit defaults inner) := by
  intro room document edited value edit read
  rcases bind_eq_ok.mp read with ⟨slots, read, built⟩
  rcases exists_slots_of_edit distinct tolerant keeps edit read with ⟨others, readOther, same⟩
  refine bind_eq_ok.mpr ⟨others, readOther, ?_⟩
  rw [← builds others, same, builds slots, built]

theorem keeps_edit_unedited {defaults : format.Slots} {build : format.Slots → Except Fault α}
    (distinct : format.fields.Nodup) (tolerant : format.closed = false)
    (builds : ∀ slots, build (joined defaults slots) = build slots) :
    (format.decode build).Keeps (format.Edit defaults fun _ => Document.Unedited) :=
  keeps_edit distinct tolerant (fun _ => Decoder.keeps_unedited _) builds

end RecordFormat

end RowQuery
