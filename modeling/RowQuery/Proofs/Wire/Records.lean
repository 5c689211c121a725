import RowQuery.Proofs.Wire.Values
import RowQuery.Wire.Record

/-!
# Records that are sent and read

A record is sent as an object with a member for each field that has something to send. This
file shows that such an object fills the slots of these fields with their contents and leaves
the others empty, if each field's content is recovered; so a record is recovered field by
field.

In the other direction, what was filled into a slot was read as the content of its field.
-/

namespace RowQuery

namespace RecordFormat

variable {Field α : Type} {format : RecordFormat Field}

/-- Every field is declared once, and is what its own name stands for. -/
structure WellNamed (format : RecordFormat Field) : Prop where
  declared : ∀ field, field ∈ format.fields
  distinct : format.fields.Nodup
  named : ∀ field, format.field? (format.name field) = some field

/-- The members of a record: one for each field that has something to send. -/
def members (format : RecordFormat Field) (send : Field → Option Json) : List (String × Json) :=
  format.fields.flatMap fun field => Json.optional (format.name field) (send field)

theorem exists_of_mem_members {send : Field → Option Json} {member : String × Json}
    (memberMem : member ∈ format.members send) :
    ∃ field, member.1 = format.name field ∧ send field = some member.2 := by
  rcases List.mem_flatMap.mp memberMem with ⟨field, _, found⟩
  cases sent : send field with
  | none =>
      rw [sent] at found
      cases found
  | some value =>
      rw [sent, Json.optional, List.mem_singleton] at found
      subst found
      exact ⟨field, rfl, sent⟩

/-- What is sent of each field is read as its content, and nothing is sent of an empty slot. -/
def Delivers (format : RecordFormat Field) (room : Nat) (send : Field → Option Json)
    (contents : format.Slots) : Prop :=
  ∀ field, (send field).map (fun value => format.content field room value.document) =
    (contents field).map .ok

theorem Delivers.of_none {room : Nat} {send : Field → Option Json} {contents : format.Slots}
    (delivers : format.Delivers room send contents) {field : Field} (unsent : send field = none) :
    contents field = none := by
  have delivered := delivers field
  rw [unsent] at delivered
  exact Option.map_eq_none_iff.mp delivered.symm

theorem Delivers.of_some {room : Nat} {send : Field → Option Json} {contents : format.Slots}
    (delivers : format.Delivers room send contents) {field : Field} {value : Json}
    (sent : send field = some value) :
    ∃ content, contents field = some content ∧
      format.content field room value.document = .ok content := by
  have delivered := delivers field
  rw [sent] at delivered
  rcases Option.map_eq_some_iff.mp delivered.symm with ⟨content, filled, read⟩
  exact ⟨content, filled, read.symm⟩

/-- The content of a required field is in its slot. -/
theorem require_eq_ok {slots : format.Slots} {field : Field} {content : format.Content field} :
    format.require slots field = .ok content ↔ slots field = some content := by
  rw [require]
  cases slots field with
  | none => simp
  | some found => simp

variable [DecidableEq Field]

/--
The members of some fields fill the slots of these fields. A field of which nothing is sent leaves
its slot empty.
-/
theorem fillMembers_sent {room : Nat} {send : Field → Option Json} {contents : format.Slots}
    (wellNamed : format.WellNamed) (delivers : format.Delivers room send contents)
    {fields : List Field} (distinct : fields.Nodup) {slots : format.Slots}
    (free : ∀ field ∈ fields, slots field = none) :
    format.fillMembers room slots (Json.documentMembers
        (fields.flatMap fun field => Json.optional (format.name field) (send field))) =
      .ok fun field => if field ∈ fields then contents field else slots field := by
  induction fields generalizing slots with
  | nil => simp [Json.documentMembers, fillMembers]
  | cons first others ih =>
      rw [List.nodup_cons] at distinct
      rw [List.forall_mem_cons] at free
      rw [List.flatMap_cons]
      cases sent : send first with
      | none =>
          rw [Json.optional, List.nil_append, ih distinct.2 free.2]
          congr 1
          funext field
          by_cases same : field = first
          · subst same
            rw [if_neg distinct.1, if_pos List.mem_cons_self, free.1, delivers.of_none sent]
          · simp only [List.mem_cons, same, false_or]
      | some value =>
          obtain ⟨content, filled, read⟩ := delivers.of_some sent
          have stillFree : ∀ field ∈ others, format.fill slots first content field = none := by
            intro field fieldMem
            have different : first ≠ field := fun same => distinct.1 (same ▸ fieldMem)
            rw [fill_other format slots content different, free.2 field fieldMem]
          have remaining := ih distinct.2 stillFree
          simp only [Json.optional, List.singleton_append, Json.documentMembers, fillMembers,
            wellNamed.named, free.1, read, Option.isSome_none, Bool.false_eq_true, if_false]
          refine remaining.trans ?_
          congr 1
          funext field
          by_cases same : field = first
          · subst same
            rw [if_neg distinct.1, if_pos List.mem_cons_self, fill_same, filled]
          · simp only [List.mem_cons, same, false_or]
            rw [fill_other format slots content (Ne.symm same)]

/-- A record is read as what its contents are built into. -/
theorem decode_members {room : Nat} {send : Field → Option Json} {contents : format.Slots}
    (wellNamed : format.WellNamed) (delivers : format.Delivers room send contents)
    (build : format.Slots → Except Fault α) :
    format.decode build (room + 1) (Json.object (format.members send)).document =
      build contents := by
  have filled : format.slots (room + 1) (Json.object (format.members send)).document =
      .ok contents := by
    have free : ∀ field ∈ format.fields, format.noSlots field = none := fun _ _ => rfl
    rw [Json.document, slots, members, fillMembers_sent wellNamed delivers wellNamed.distinct free]
    congr 1
    funext field
    rw [if_pos (wellNamed.declared field)]
  rw [decode, filled]
  rfl

/-- A record is recovered if each field delivers its content and the contents make it up. -/
theorem decode_recovers {room : Nat} {send : Field → Option Json} {contents : format.Slots}
    {build : format.Slots → Except Fault α} {json : α → Json} {value : α}
    (wellNamed : format.WellNamed) (delivers : format.Delivers room send contents)
    (sent : json value = .object (format.members send)) (built : build contents = .ok value) :
    (format.decode build).Recovers json (room + 1) value := by
  rw [Decoder.Recovers, sent, decode_members wellNamed delivers, built]

/-- The content of every filled slot was read. -/
def Filled (format : RecordFormat Field) (room : Nat) (slots : format.Slots) : Prop :=
  ∀ field content, slots field = some content → (format.content field).Yields room content

theorem Filled.fill {room : Nat} {slots : format.Slots} (filled : format.Filled room slots)
    {field : Field} {content : format.Content field} {document : Document}
    (read : format.content field room document = .ok content) :
    format.Filled room (format.fill slots field content) := by
  intro other found present
  by_cases same : field = other
  · subst same
    rw [fill_same] at present
    cases present
    exact ⟨document, read⟩
  · rw [fill_other format slots content same] at present
    exact filled other found present

theorem Filled.fillMembers {room : Nat} {slots result : format.Slots}
    {members : List (Key × Document)} (filled : format.Filled room slots)
    (read : format.fillMembers room slots members = .ok result) : format.Filled room result := by
  induction members generalizing slots with
  | nil =>
      cases read
      exact filled
  | cons first others ih =>
      rcases first with ⟨_ | name, document⟩
      · cases read
      · rw [RecordFormat.fillMembers] at read
        split at read
        · split at read
          · cases read
          · split at read
            · exact ih filled read
            · cases read
        · split at read
          · cases read
          · rcases bind_eq_ok.mp read with ⟨content, readContent, further⟩
            exact ih (filled.fill readContent) further

theorem Filled.fillItems {room : Nat} {slots result : format.Slots} {fields : List Field}
    {items : List Document} (filled : format.Filled room slots)
    (read : format.fillItems room slots fields items = .ok result) : format.Filled room result := by
  induction fields generalizing slots items with
  | nil =>
      cases items with
      | nil =>
          cases read
          exact filled
      | cons first others => cases read
  | cons field fields ih =>
      cases items with
      | nil =>
          rw [RecordFormat.fillItems] at read
          split at read
          · cases read
          · exact ih filled read
      | cons first others =>
          rcases bind_eq_ok.mp read with ⟨content, readContent, further⟩
          exact ih (filled.fill readContent) further

/-- A record that was read was built from contents that were read. -/
theorem exists_of_decode {room : Nat} {build : format.Slots → Except Fault α} {value : α}
    (yields : (format.decode build).Yields room value) :
    ∃ inner slots, room = inner + 1 ∧ format.Filled inner slots ∧ build slots = .ok value := by
  have empty (inner : Nat) : format.Filled inner format.noSlots := by
    intro field content present
    cases present
  rcases yields with ⟨document, read⟩
  rcases bind_eq_ok.mp read with ⟨slots, read, built⟩
  unfold RecordFormat.slots at read
  split at read
  · cases read
  · cases read
  · next inner _ _ => exact ⟨inner, slots, rfl, (empty inner).fillMembers read, built⟩
  · next inner _ _ => exact ⟨inner, slots, rfl, (empty inner).fillItems read, built⟩
  · cases read

end RecordFormat

end RowQuery
