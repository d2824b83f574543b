import Nullability.AnnotationMap.Load
import Nullability.Proofs.Xml.Declaration

/-!
# Refused documents

Loading a document fails by a fault about the document, or not at all, unless the document declares
an encoding that cannot be used. That is refused as the tables of encodings put it, which is no fault
of the library, and the map stays as it was (`failsAsDocument_iff`).
-/

namespace Nullability.AnnotationMap

open Xml

/-- Whether loading a document fails, if at all, by a fault about the document. -/
def FailsAsDocument (m : AnnotationMap) (source : String) (bytes : List UInt8) : Prop :=
  ∀ failure, (m.loadDocument source bytes).2 = some failure →
    ∃ fault, failure = .fault fault ∧ fault.family = .document

variable {m : AnnotationMap} {source : String} {bytes : List UInt8} {refusal : Refusal}

/-- A refusal is a fault exactly if the document is not well-formed, and then it is about it. -/
lemma exists_refused_eq_fault_iff :
    (∃ fault, refused source refusal = .fault fault ∧ fault.family = .document) ↔
      refusal = .malformed := by
  cases refusal <;> simp [refused, Fault.family]

lemma refused_injective : Function.Injective (refused source) := by
  intro a b h
  cases a <;> cases b <;> first | rfl | cases h

/-- Documents are refused for their encoding exactly as the tables of encodings say. -/
lemma loadDocument_eq_refused_iff :
    refusal ≠ .malformed ∧ m.loadDocument source bytes = (m, some (refused source refusal)) ↔
      ∃ name, DeclaresEncoding bytes name ∧ Unusable name refusal := by
  rw [← Element.ofBytes_eq_error_iff, and_comm]
  refine and_congr_left (fun hne => ?_)
  unfold loadDocument
  cases hroot : Element.ofBytes bytes with
  | error found =>
    rw [Except.error.injEq]
    exact ⟨fun h => refused_injective (Option.some.inj (Prod.mk.inj h).2), fun h => h ▸ rfl⟩
  | ok root =>
    refine iff_of_false (fun h => ?_) (fun h => by cases h)
    obtain ⟨missing, -, hfault⟩ := Option.map_eq_some_iff.1 (Prod.mk.inj h).2
    exact hne (exists_refused_eq_fault_iff.1 ⟨_, hfault.symm, rfl⟩)

/-- Loading a document fails as it should exactly if the document does not declare an encoding that
cannot be used; if it does, that is the reason it is refused for. -/
theorem failsAsDocument_iff (m : AnnotationMap) (source : String) (bytes : List UInt8) :
    (FailsAsDocument m source bytes ↔
      ∀ name refusal, ¬ (DeclaresEncoding bytes name ∧ Unusable name refusal)) ∧
    ∀ refusal, (refusal ≠ .malformed ∧
        m.loadDocument source bytes = (m, some (refused source refusal))) ↔
      ∃ name, DeclaresEncoding bytes name ∧ Unusable name refusal := by
  refine ⟨⟨fun h name refusal hdeclared => ?_, fun h failure hfailure => ?_⟩,
    fun refusal => loadDocument_eq_refused_iff⟩
  · obtain ⟨hne, hload⟩ : refusal ≠ .malformed ∧
        m.loadDocument source bytes = (m, some (refused source refusal)) :=
      loadDocument_eq_refused_iff.2 ⟨name, hdeclared⟩
    exact hne (exists_refused_eq_fault_iff.1 (h _ (congrArg Prod.snd hload)))
  · cases hroot : Element.ofBytes bytes with
    | error found =>
      rw [loadDocument, hroot] at hfailure
      obtain rfl := Option.some.inj hfailure
      refine exists_refused_eq_fault_iff.2 (not_not.1 (fun hne => ?_))
      obtain ⟨name, hdeclared⟩ := Element.ofBytes_eq_error_iff.1 ⟨hroot, hne⟩
      exact h name found hdeclared
    | ok root =>
      rw [loadDocument, hroot] at hfailure
      obtain ⟨missing, -, rfl⟩ := Option.map_eq_some_iff.1 hfailure
      exact ⟨_, rfl, rfl⟩

/-- The document that begins with the declaration of an encoding nobody knows. -/
def unknownEncodingDocument : List UInt8 :=
  Text.utf8 "<?xml version=\"1.0\" encoding=\"nope\"?><assembly/>"

/-- Loading fails otherwise for a document that declares an encoding nobody knows. -/
theorem not_failsAsDocument_unknownEncoding :
    ¬ FailsAsDocument .empty "<stream>" unknownEncodingDocument := by
  have hread : readDeclaration (Encoding.utf8.lead [] unknownEncodingDocument) =
      .ok (some ⟨some "nope", false, 37⟩) := by decide +kernel
  have hdeclares : DeclaresEncoding unknownEncodingDocument "nope" :=
    ⟨.utf8, unknownEncodingDocument, by decide +kernel, exists_readDeclaration_iff.1 ⟨_, hread, rfl⟩⟩
  have hunusable : Unusable "nope" .unknownEncoding :=
    ⟨by decide +kernel, by decide +kernel, by decide⟩
  obtain ⟨-, hload⟩ : Refusal.unknownEncoding ≠ .malformed ∧
      loadDocument .empty "<stream>" unknownEncodingDocument = (.empty, some .unknownName) :=
    loadDocument_eq_refused_iff.2 ⟨"nope", hdeclares, hunusable⟩
  intro h
  obtain ⟨fault, hfault, -⟩ := h _ (congrArg Prod.snd hload)
  cases hfault

end Nullability.AnnotationMap
