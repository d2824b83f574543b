import Nullability.AnnotationMap
import Mathlib.Tactic.Common
import Mathlib.Data.Option.Basic

/-!
# Compaction

Dropping the entries of which nothing is known changes no answer.
-/

namespace Nullability

lemma MemberFacts.isEmpty_iff {facts : MemberFacts} :
    facts.isEmpty = true ↔ facts.isAnnotated = false ∧ facts.parameters.isEmpty = true := by
  rw [isEmpty, Bool.and_eq_true, Bool.not_eq_true']

lemma MemberFacts.hasParameter_of_isEmpty {facts : MemberFacts} (h : facts.isEmpty = true)
    (name : String) : facts.hasParameter name = false := by
  have hentries : facts.parameters.entries = [] := List.isEmpty_iff.1 (isEmpty_iff.1 h).2
  rw [hasParameter, OrderedMap.get?, hentries]
  rfl

namespace AnnotationMap

/-- Only what is known is kept. -/
lemma isEmpty_of_mem_compact {m : AnnotationMap} {entry : String × MemberFacts}
    (h : entry ∈ m.compact.entries) : entry.2.isEmpty = false := by
  have hkept := (List.mem_filter.1 h).2
  rwa [Bool.not_eq_true'] at hkept

lemma get?_compact (m : AnnotationMap) (key : String) :
    m.compact.get? key = (m.get? key).filter (fun facts => !facts.isEmpty) := by
  apply Option.ext
  intro facts
  rw [← OrderedMap.mem_entries_iff, Option.filter_eq_some_iff, ← OrderedMap.mem_entries_iff]
  exact List.mem_filter

lemma find?_compact (m : AnnotationMap) (id : MemberId) :
    m.compact.find? id = (m.find? id).filter (fun facts => !facts.isEmpty) := by
  rw [find?, find?, get?_compact, Option.filter_filter, Option.filter_filter]
  congr 1
  funext facts
  exact Bool.and_comm _ _

/-- An entry of which nothing is known answers like one that is missing. -/
lemma answers_compact (m : AnnotationMap) (id : MemberId) (aspect : Aspect) :
    m.compact.answers id aspect = m.answers id aspect := by
  have hfound := find?_compact m id
  cases hfacts : m.find? id with
  | none =>
    rw [hfacts, Option.filter_none] at hfound
    cases aspect with
    | _ => simp only [answers, hfound, hfacts]
  | some facts =>
    rw [hfacts, Option.filter_some] at hfound
    cases hempty : facts.isEmpty with
    | false =>
      rw [hempty, Bool.not_false, if_pos rfl] at hfound
      cases aspect with
      | _ => simp only [answers, hfound, hfacts]
    | true =>
      rw [hempty, Bool.not_true, if_neg Bool.false_ne_true] at hfound
      cases aspect with
      | item => rfl
      | value => simp only [answers, hfound, hfacts, (MemberFacts.isEmpty_iff.1 hempty).1]
      | parameter name =>
        cases name with
        | none => simp only [answers, hfound, hfacts]
        | some name =>
          simp only [answers, hfound, hfacts, MemberFacts.hasParameter_of_isEmpty hempty]

end AnnotationMap

end Nullability
