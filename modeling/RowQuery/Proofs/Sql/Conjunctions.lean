import Mathlib
import RowQuery.Proofs.Sql.Truth

/-!
# Conjunctions

A predicate is a tree with conjunctions as its inner nodes. What matters of such a tree are its
leaves, from left to right: they decide whether the predicate holds and how many values it has,
however they are grouped. This file shows that joining predicates keeps their leaves, although it
only takes the conjunctions at the roots of its inputs apart.

A tree is in normal form if nothing can be taken apart and nothing stands by itself in it.
Predicates in normal form are joined to one in normal form.
-/

namespace RowQuery

namespace Predicate

/-- Whether a predicate is a conjunction. -/
def isConj : Predicate → Bool
  | .conj _ => true
  | _ => false

mutual

/-- The predicates in a tree that are no conjunctions, from left to right. -/
def leaves : Predicate → List Predicate
  | .conj parts => leavesOfEach parts
  | leaf => [leaf]

/-- The leaves of several predicates, in order. -/
def leavesOfEach : List Predicate → List Predicate
  | [] => []
  | part :: rest => part.leaves ++ leavesOfEach rest

end

/-- No conjunction, or one of two or more predicates that are no conjunctions. -/
def IsNormal : Predicate → Prop
  | .conj parts => 2 ≤ parts.length ∧ ∀ part ∈ parts, part.isConj = false
  | _ => True

theorem leavesOfEach_eq_flatMap (parts : List Predicate) :
    leavesOfEach parts = parts.flatMap leaves := by
  induction parts with
  | nil => simp [leavesOfEach]
  | cons first others ih => simp [leavesOfEach, ih]

@[simp]
theorem leaves_conj (parts : List Predicate) : (conj parts).leaves = parts.flatMap leaves := by
  rw [leaves, leavesOfEach_eq_flatMap]

theorem bindCountAll_eq_sum (parts : List Predicate) :
    bindCountAll parts = (parts.map bindCount).sum := by
  induction parts with
  | nil => simp [bindCountAll]
  | cons first others ih => simp [bindCountAll, ih]

@[simp]
theorem bindCount_conj (parts : List Predicate) :
    (conj parts).bindCount = (parts.map bindCount).sum := by
  rw [bindCount, bindCountAll_eq_sum]

/-- The number of values of a predicate is counted right. -/
theorem length_binds (predicate : Predicate) : predicate.binds.length = predicate.bindCount := by
  induction predicate using inductionOnParts with
  | conj parts each =>
      rw [binds_conj, bindCount_conj, List.length_flatMap, List.map_congr_left each]
  | _ => simp [bindCount]

theorem length_flatMap_binds (predicates : List Predicate) :
    (predicates.flatMap binds).length = (predicates.map bindCount).sum := by
  rw [List.length_flatMap]
  simp only [length_binds]

theorem isNormal_of_isConj {predicate : Predicate} (single : predicate.isConj = false) :
    predicate.IsNormal := by
  cases predicate with
  | conj parts => simp [isConj] at single
  | _ => trivial

/-- A predicate in normal form has parts, none of which can be taken apart. -/
theorem IsNormal.parts {predicate : Predicate} (normal : predicate.IsNormal) :
    predicate.parts ≠ [] ∧ ∀ part ∈ predicate.parts, part.isConj = false := by
  cases predicate with
  | conj inner =>
      refine ⟨?_, normal.2⟩
      apply List.ne_nil_of_length_pos
      exact Nat.lt_of_lt_of_le Nat.zero_lt_two normal.1
  | _ => simp [Predicate.parts, isConj]

/-- A conjunction has the leaves of what it was made from. -/
theorem leaves_all? (predicates : List Predicate) :
    (all? predicates).toList.flatMap leaves = predicates.flatMap leaves :=
  flatMap_all? leaves_conj predicates

section Normal

variable {predicates : List Predicate}
  (normal : ∀ predicate ∈ predicates, predicate.IsNormal)

include normal

theorem isConj_of_mem_parts {part : Predicate} (partMem : part ∈ predicates.flatMap parts) :
    part.isConj = false := by
  rcases List.mem_flatMap.mp partMem with ⟨predicate, predicateMem, partMem⟩
  exact (normal predicate predicateMem).parts.2 part partMem

theorem all?_eq_none_iff : all? predicates = none ↔ predicates = [] := by
  constructor
  · intro nothing
    rw [all?] at nothing
    split at nothing
    · next empty =>
        rw [List.flatMap_eq_nil_iff] at empty
        apply List.eq_nil_iff_forall_not_mem.mpr
        intro predicate predicateMem
        exact (normal predicate predicateMem).parts.1 (empty predicate predicateMem)
    · cases nothing
    · cases nothing
  · rintro rfl
    rfl

/-- A conjunction is normal, whatever it was made from. -/
theorem isNormal_of_all? {result : Predicate} (joined : all? predicates = some result) :
    result.IsNormal := by
  rw [all?] at joined
  split at joined
  · cases joined
  · next only single =>
      cases joined
      apply isNormal_of_isConj
      apply isConj_of_mem_parts normal
      simp [single]
  · next several notEmpty notSingle =>
      cases joined
      refine ⟨?_, fun part partMem => isConj_of_mem_parts normal partMem⟩
      rcases equal : predicates.flatMap parts with _ | ⟨first, _ | ⟨second, others⟩⟩
      · exact absurd equal notEmpty
      · exact absurd equal (notSingle first)
      · simp

end Normal

/-- A predicate in normal form stays as it is when it is joined with nothing else. -/
theorem IsNormal.all?_singleton {predicate : Predicate} (normal : predicate.IsNormal) :
    all? [predicate] = some predicate := by
  cases predicate with
  | conj parts =>
      rcases parts with _ | ⟨first, _ | ⟨second, others⟩⟩
      · exact absurd normal.1 (by decide)
      · exact absurd normal.1 (by simp)
      · simp [all?, Predicate.parts]
  | _ => rfl

/--
Joining predicates keeps their leaves, and with them the values and the truth of all of them. It
does not matter in how many steps predicates are joined, and predicates in normal form are joined
to one that joining leaves alone.
-/
theorem all?_faithful :
    (∀ predicates : List Predicate,
      (all? predicates).toList.flatMap leaves = predicates.flatMap leaves ∧
        ((all? predicates).toList.map bindCount).sum = (predicates.map bindCount).sum ∧
        ∀ truth, (all? predicates).all (holds truth) = predicates.all (holds truth)) ∧
    (∀ first second : List Predicate,
      (all? (first ++ second)).toList.flatMap leaves =
        (all? ((all? first).toList ++ (all? second).toList)).toList.flatMap leaves) ∧
    ∀ predicates : List Predicate, (∀ predicate ∈ predicates, predicate.IsNormal) →
      (all? predicates = none ↔ predicates = []) ∧
        ∀ result, all? predicates = some result →
          result.IsNormal ∧ all? [result] = some result := by
  refine ⟨?_, ?_, ?_⟩
  · intro predicates
    refine ⟨leaves_all? predicates, ?_, fun truth => holds_all? truth predicates⟩
    rw [← length_flatMap_binds, ← length_flatMap_binds, binds_all?]
  · intro first second
    simp only [leaves_all?, List.flatMap_append]
  · intro predicates normal
    refine ⟨all?_eq_none_iff normal, ?_⟩
    intro result joined
    have resultNormal := isNormal_of_all? normal joined
    exact ⟨resultNormal, resultNormal.all?_singleton⟩

theorem all?_faithful_nested :
    let inputs : List Predicate := [.conj [.equalTo "a" "x", .between "b" (.text "1") (.text "2")],
      .isNull "c" true]
    (∀ predicate ∈ inputs, predicate.IsNormal) ∧
      ∃ result, all? inputs = some result ∧ result.IsNormal ∧ all? [result] = some result := by
  intro inputs
  have normal : ∀ predicate ∈ inputs, predicate.IsNormal := by
    simp [inputs, IsNormal, isConj, equalTo]
  have joined : all? inputs = some (.conj [.equalTo "a" "x",
    .between "b" (.text "1") (.text "2"), .isNull "c" true]) := rfl
  exact ⟨normal, _, joined, (all?_faithful.2.2 inputs normal).2 _ joined⟩

end Predicate

end RowQuery
