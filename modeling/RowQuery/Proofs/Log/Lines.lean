import Mathlib.Data.List.Nodup
import Mathlib.Tactic.SplitIfs
import RowQuery.Log.Record
import RowQuery.Proofs.Json.Printing
import RowQuery.Proofs.Json.Reading

/-!
# Reading log lines

This file reads a log line with the reader of documents and finds in it exactly what was
logged: the event, the severity, and the fields with their names and texts.

A line holds no control character of its own, because each of them is escaped, so the line
end behind it is the only one. The order of the fields is fixed up to fields with the same
name, which stay as they were given; so it does not matter in which order fields with
different names are given.
-/

namespace RowQuery

/-- The word that stands for a severity in a log line. -/
def Severity.word : Severity → String
  | .trace => "TRACE"
  | .info => "INFO"
  | .warn => "WARN"
  | .error => "ERROR"

theorem Severity.label_eq_word (severity : Severity) : severity.label = severity.word := by
  cases severity with
  | _ => rfl

/-- Fields in the order of their names, those with the same name in the order they had. -/
structure SortedStably (fields sorted : List (String × String)) : Prop where
  perm : sorted.Perm fields
  ordered : sorted.Pairwise fun first second => first.1 ≤ second.1
  stable : ∀ name, (sorted.filter fun field => field.1 = name) =
    fields.filter fun field => field.1 = name

/-- Fields with different names have one order only. -/
theorem SortedStably.unique {fields other sorted otherSorted : List (String × String)}
    (arranged : SortedStably fields sorted) (otherArranged : SortedStably other otherSorted)
    (same : other.Perm fields) (distinct : (fields.map Prod.fst).Nodup) : otherSorted = sorted := by
  have perm : otherSorted.Perm sorted :=
    otherArranged.perm.trans (same.trans arranged.perm.symm)
  refine perm.eq_of_pairwise ?_ otherArranged.ordered arranged.ordered
  intro first second firstMem secondMem before after
  have firstField := (otherArranged.perm.trans same).mem_iff.mp firstMem
  have secondField := arranged.perm.mem_iff.mp secondMem
  exact List.inj_on_of_nodup_map distinct firstField secondField (String.le_antisymm before after)

namespace LogRecord

/--
Sorting is stable: fields of one name are in order among themselves, so they are kept as they are.
-/
theorem sortedFields_sortedStably (record : LogRecord) :
    SortedStably record.fields record.sortedFields := by
  have transitive : ∀ first second third : String × String, decide (first.1 ≤ second.1) = true →
      decide (second.1 ≤ third.1) = true → decide (first.1 ≤ third.1) = true := by
    simp only [decide_eq_true_eq]
    intro first second third
    exact String.le_trans
  have total : ∀ first second : String × String,
      (decide (first.1 ≤ second.1) || decide (second.1 ≤ first.1)) = true := by
    simp only [Bool.or_eq_true, decide_eq_true_eq]
    intro first second
    exact String.le_total first.1 second.1
  have perm : record.sortedFields.Perm record.fields := List.mergeSort_perm _ _
  refine ⟨perm, ?_, ?_⟩
  · have ordered := List.pairwise_mergeSort transitive total record.fields
    simp only [decide_eq_true_eq] at ordered
    exact ordered
  · intro name
    have inOrder : (record.fields.filter fun field => field.1 = name).Pairwise
        fun first second => decide (first.1 ≤ second.1) = true := by
      rw [List.pairwise_iff_forall_sublist]
      intro first second pair
      have firstMem := (pair.subset List.mem_cons_self)
      have secondMem := (pair.subset (List.mem_cons_of_mem _ List.mem_cons_self))
      simp only [List.mem_filter, decide_eq_true_eq] at firstMem secondMem
      simp [firstMem.2, secondMem.2]
    have kept := List.sublist_mergeSort transitive total inOrder List.filter_sublist
    have filtered := kept.filter fun field => field.1 = name
    simp only [List.filter_filter, Bool.and_self] at filtered
    exact (filtered.eq_of_length (perm.filter _).length_eq.symm).symm

/-- An escaped character is read as the character. -/
theorem escape_writes (character : Char) : Quoted.Writes (escape character) character := by
  unfold escape
  split_ifs with quote backslash newline back tab control
  · subst quote; exact Quoted.writes_letter (by decide) rfl
  · subst backslash; exact Quoted.writes_letter (by decide) rfl
  · subst newline; exact Quoted.writes_letter (by decide) rfl
  · subst back; exact Quoted.writes_letter (by decide) rfl
  · subst tab; exact Quoted.writes_letter (by decide) rfl
  · simp only [isControl, Bool.or_eq_true, Bool.and_eq_true, decide_eq_true_eq] at control
    exact Quoted.writes_code (by omega)
  · simp only [isControl, Bool.or_eq_true, Bool.and_eq_true, decide_eq_true_eq, not_or] at control
    exact Quoted.writes_self quote backslash (Nat.not_lt.mp control.1)

theorem member_append (field : String × String) (rest : List Char) :
    member field ++ rest = '"' :: (field.1.toList.flatMap escape ++ '"' :: ':' :: '"' ::
      (field.2.toList.flatMap escape ++ '"' :: rest)) := by
  simp [member, quoted]

/-- A member as the reader of documents sees it. -/
def documentMember (field : String × String) : Key × Document :=
  (some field.1, .text (some field.2))

/-- Logged fields are read as members with their names and texts, in order. -/
theorem members_map_member (first : String × String) (others : List (String × String))
    (rest : List Char) :
    Document.members (List.intercalate [','] ((first :: others).map member) ++ '}' :: rest) =
      ((first :: others).map documentMember, rest) := by
  have named := fun (field : String × String) => Quoted.read?_flatMap escape_writes field.1
  have valued := fun (field : String × String) (rest : List Char) =>
    Document.read_text (Quoted.read?_flatMap escape_writes field.2 rest)
  induction others generalizing first with
  | nil =>
      rw [List.map_singleton, List.intercalate_singleton, member_append]
      exact Document.members_last (named first _) (valued first _)
  | cons second others ih =>
      rw [List.map_cons, List.map_cons, List.intercalate_cons_cons, List.append_assoc,
        List.append_assoc, member_append, List.singleton_append, ← List.map_cons,
        Document.members_more (named first _) (valued first _), ih second]
      rfl

/-- A line is read as an object with the logged names and texts, in order. -/
theorem read_chars (record : LogRecord) (rest : List Char) :
    Document.read (record.chars ++ rest) =
      (.object ((("event", record.event) :: ("severity", record.severity.word) ::
        record.sortedFields).map documentMember), rest) := by
  have members := members_map_member ("event", record.event)
    (("severity", record.severity.label) :: record.sortedFields) rest
  have written : record.chars ++ rest =
      '{' :: (List.intercalate [','] (record.members.map member) ++ '}' :: rest) := by
    simp [chars]
  have named : ∃ text, List.intercalate [','] (record.members.map member) ++ '}' :: rest =
      '"' :: text := by
    rw [LogRecord.members, List.map_cons, List.map_cons, List.intercalate_cons_cons,
      List.append_assoc, List.append_assoc, member_append]
    exact ⟨_, rfl⟩
  rcases named with ⟨text, equal⟩
  rw [← LogRecord.members, equal] at members
  rw [written, equal, Document.read_object, members, ← Severity.label_eq_word]
  rfl

/-- A line that is read as a record: its event, its severity and its fields in their order. -/
def ReadFrom (record : LogRecord) (line : String) : Prop :=
  ∃ sorted, SortedStably record.fields sorted ∧
    Document.read line.toList =
      (.object ((("event", record.event) :: ("severity", record.severity.word) :: sorted).map
        fun field => (some field.1, .text (some field.2))), [])

/-- A line is read as the record that it was written from. -/
theorem readFrom_line (record : LogRecord) : record.ReadFrom record.line := by
  have read := record.read_chars []
  rw [List.append_nil] at read
  refine ⟨record.sortedFields, record.sortedFields_sortedStably, ?_⟩
  rw [line, String.toList_ofList, read]
  rfl

/-- None of the characters is a control character. -/
def Printed (text : List Char) : Prop := ∀ character ∈ text, isControl character = false

instance (text : List Char) : Decidable (Printed text) :=
  List.decidableBAll (fun character => isControl character = false) text

/-- An escaped character is written without control characters. -/
theorem escape_printed (character : Char) : Printed (escape character) := by
  unfold escape
  split_ifs with quote backslash newline back tab control
  · decide
  · decide
  · decide
  · decide
  · decide
  · have digits : ∀ high < 16, ∀ low < 16,
        Printed ['\\', 'u', '0', '0', Nat.digitChar high, Nat.digitChar low] := by decide
    simp only [isControl, Bool.or_eq_true, Bool.and_eq_true, decide_eq_true_eq] at control
    exact digits (character.toNat / 16) (by omega) (character.toNat % 16) (by omega)
  · simpa [Printed] using control

theorem quoted_printed (content : String) : Printed (quoted content) := by
  rw [quoted, Printed, List.forall_mem_append, List.forall_mem_cons]
  refine ⟨⟨by decide, ?_⟩, (by decide : Printed ['"'])⟩
  intro written writtenMem
  rcases List.mem_flatMap.mp writtenMem with ⟨source, _, escaped⟩
  exact escape_printed source written escaped

theorem member_printed (field : String × String) : Printed (member field) := by
  rw [member, Printed, List.forall_mem_append, List.forall_mem_cons]
  exact ⟨quoted_printed field.1, by decide, quoted_printed field.2⟩

theorem chars_printed (record : LogRecord) : Printed record.chars := by
  rw [chars, Printed, List.forall_mem_append, List.forall_mem_cons]
  refine ⟨⟨by decide, forall_mem_intercalate (by decide : Printed [',']) ?_⟩,
    (by decide : Printed ['}'])⟩
  intro text textMem
  rcases List.mem_map.mp textMem with ⟨field, _, rfl⟩
  exact member_printed field

end LogRecord

/--
A log line is one line, holds what was logged and nothing else, and does not depend on the
order in which fields with different names were given.
-/
theorem log_lines_faithful (event : String) (severity : Severity)
    (fields : List (String × String)) :
    (∀ character ∈ (LogRecord.line ⟨event, severity, fields⟩).toList,
        LogRecord.isControl character = false) ∧
      (∃ sorted, SortedStably fields sorted ∧
        Document.read ((LogRecord.line ⟨event, severity, fields⟩).toList ++ ['\n']) =
          (.object ((("event", event) :: ("severity", severity.word) :: sorted).map
            fun field => (some field.1, .text (some field.2))), ['\n'])) ∧
      ((fields.map Prod.fst).Nodup → ∀ other, other.Perm fields →
        LogRecord.line ⟨event, severity, other⟩ = LogRecord.line ⟨event, severity, fields⟩) := by
  have sorted (given : List (String × String)) :=
    LogRecord.sortedFields_sortedStably ⟨event, severity, given⟩
  rw [LogRecord.line, String.toList_ofList]
  refine ⟨LogRecord.chars_printed _, ⟨_, sorted fields, LogRecord.read_chars _ _⟩, ?_⟩
  intro distinct other same
  have unique := (sorted fields).unique (sorted other) same distinct
  simp only [LogRecord.line, LogRecord.chars, LogRecord.members, unique]

theorem log_lines_faithful_hostileFields :
    ([("op", "fuzzy"), ("column", "a\"\x7d\n\x7b\"event\":\"COMMAND_FAILED")].map Prod.fst).Nodup ∧
      LogRecord.line ⟨"FILTER_IGNORED", .warn,
          [("column", "a\"\x7d\n\x7b\"event\":\"COMMAND_FAILED"), ("op", "fuzzy")]⟩ =
        LogRecord.line ⟨"FILTER_IGNORED", .warn,
          [("op", "fuzzy"), ("column", "a\"\x7d\n\x7b\"event\":\"COMMAND_FAILED")]⟩ ∧
      LogRecord.line ⟨"FILTER_IGNORED", .warn,
          [("column", "a\"\x7d\n\x7b\"event\":\"COMMAND_FAILED"), ("op", "fuzzy")]⟩ =
        "\x7b\"event\":\"FILTER_IGNORED\",\"severity\":\"WARN\"," ++
          "\"column\":\"a\\\"\x7d\\n\x7b\\\"event\\\":\\\"COMMAND_FAILED\"," ++
          "\"op\":\"fuzzy\"\x7d" := by
  have distinct : ([("op", "fuzzy"),
      ("column", "a\"\x7d\n\x7b\"event\":\"COMMAND_FAILED")].map Prod.fst).Nodup := by decide
  refine ⟨distinct, ?_, ?_⟩
  · exact (log_lines_faithful "FILTER_IGNORED" .warn _).2.2 distinct _ (.swap _ _ _)
  · have inOrder : LogRecord.sortedFields ⟨"FILTER_IGNORED", .warn,
        [("column", "a\"\x7d\n\x7b\"event\":\"COMMAND_FAILED"), ("op", "fuzzy")]⟩ =
          [("column", "a\"\x7d\n\x7b\"event\":\"COMMAND_FAILED"), ("op", "fuzzy")] :=
      List.mergeSort_of_pairwise (by decide)
    rw [LogRecord.line, LogRecord.chars, LogRecord.members, inOrder]
    decide

end RowQuery
