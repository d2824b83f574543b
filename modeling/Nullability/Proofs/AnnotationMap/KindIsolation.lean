import Nullability.Proofs.AnnotationMap.Meaning

/-!
# Members of different kinds with one key

A type and a method can have the same key. Their facts should be kept apart: a map should answer for
a type what documents say about the type, and not what they say about the method. But all members
with a key are merged into one entry, and only the kind of the first of them is remembered. So the
facts of different kinds are kept apart just where everything that is said about a key is also said
about the first member's kind (`isolated_iff_underFirstKind`). That is so if no key occurs under two
kinds.
-/

namespace Nullability.AnnotationMap
open Xml (Element)

/-- Whether a member element states that an aspect of its member is annotated. -/
def states (member : Element) : Aspect → Bool
  | .value => isMarked member
  | .parameter (some name) => name ∈ annotatedParameters member
  | .parameter none => false
  | .item => false

/-- The kind of the first member with a key. -/
def firstKind? (elements : List Element) (key : String) : Option String :=
  (membersOf key elements).head?.map (fun first => (idOf first).kind)

/-- Whether a map answers for a member only what is said about that very member. -/
def Isolated (elements : List Element) (merged : AnnotationMap) : Prop :=
  ∀ id aspect, merged.answers id aspect = true →
    ∃ element ∈ elements, idOf element = id ∧ states element aspect = true

/-- Whether everything that is said about a key is also said under the kind of the first member with
the key. -/
def UnderFirstKind (elements : List Element) : Prop :=
  ∀ element ∈ elements, ∀ aspect, states element aspect = true →
    ∃ other ∈ elements, (idOf other).key = (idOf element).key ∧
      firstKind? elements (idOf element).key = some (idOf other).kind ∧ states other aspect = true

variable {elements : List Element}

/-- A map answers for the first member's kind whatever is said about the key. -/
lemma answers_foldl_iff (id : MemberId) (aspect : Aspect) :
    (elements.foldl mergeMember .empty).answers id aspect = true ↔
      firstKind? elements id.key = some id.kind ∧
        ∃ element ∈ elements, (idOf element).key = id.key ∧ states element aspect = true := by
  have hmerged := merged_foldl .empty elements
  cases aspect with
  | value =>
    rw [hmerged.answersValue]
    simp [kindOf?, firstKind?, states]
  | parameter name =>
    cases name with
    | some name =>
      rw [hmerged.answersParameter]
      simp [kindOf?, firstKind?, states]
    | none => simp [answers, states]
  | item => simp [answers, states]

/-- A key that occurs has a first member. -/
lemma exists_firstKind? {element : Element} (h : element ∈ elements) :
    ∃ first ∈ elements, (idOf first).key = (idOf element).key ∧
      firstKind? elements (idOf element).key = some (idOf first).kind := by
  have hmem : element ∈ membersOf (idOf element).key elements :=
    List.mem_filter.2 ⟨h, decide_eq_true rfl⟩
  cases hmembers : membersOf (idOf element).key elements with
  | nil =>
    rw [hmembers] at hmem
    cases hmem
  | cons first rest =>
    have hfirst : first ∈ membersOf (idOf element).key elements := by
      rw [hmembers]
      exact List.mem_cons_self
    obtain ⟨hfirst, hkey⟩ := List.mem_filter.1 hfirst
    refine ⟨first, hfirst, of_decide_eq_true hkey, ?_⟩
    rw [firstKind?, hmembers]
    rfl

lemma UnderFirstKind.isolated (h : UnderFirstKind elements) :
    Isolated elements (elements.foldl mergeMember .empty) := by
  intro id aspect hanswers
  obtain ⟨hkind, element, hmem, hkey, hstates⟩ := (answers_foldl_iff id aspect).1 hanswers
  obtain ⟨other, hother, hotherkey, hotherkind, hothers⟩ := h element hmem aspect hstates
  refine ⟨other, hother, ?_, hothers⟩
  rw [hkey, hkind] at hotherkind
  have hid : idOf other = ⟨(idOf other).kind, (idOf other).key⟩ := rfl
  rw [hid, hotherkey, hkey, ← Option.some.inj hotherkind]

lemma Isolated.underFirstKind (h : Isolated elements (elements.foldl mergeMember .empty)) :
    UnderFirstKind elements := by
  intro element hmem aspect hstates
  obtain ⟨first, -, -, hkind⟩ := exists_firstKind? hmem
  -- The map answers for the first kind, so something is said about it.
  have hanswers : (elements.foldl mergeMember .empty).answers
      ⟨(idOf first).kind, (idOf element).key⟩ aspect = true :=
    (answers_foldl_iff _ aspect).2 ⟨hkind, element, hmem, rfl, hstates⟩
  obtain ⟨other, hother, hid, hothers⟩ := h _ aspect hanswers
  refine ⟨other, hother, ?_, ?_, hothers⟩
  · rw [hid]
  · rw [hkind, hid]

/-- Whether no key is used for members of two kinds. -/
def OneKindPerKey (elements : List Element) : Prop :=
  ∀ element ∈ elements, ∀ other ∈ elements,
    (idOf element).key = (idOf other).key → (idOf element).kind = (idOf other).kind

instance (elements : List Element) : Decidable (OneKindPerKey elements) :=
  inferInstanceAs (Decidable (∀ element ∈ elements, ∀ other ∈ elements, _ → _))

lemma OneKindPerKey.underFirstKind (h : OneKindPerKey elements) : UnderFirstKind elements := by
  intro element hmem aspect hstates
  obtain ⟨first, hfirst, hkey, hkind⟩ := exists_firstKind? hmem
  refine ⟨element, hmem, rfl, ?_, hstates⟩
  rw [hkind, h first hfirst element hmem hkey]

/-- A map answers just what is stated about a member, where no key is used for two kinds. -/
lemma answers_foldl_iff_states (h : OneKindPerKey elements) (id : MemberId) (aspect : Aspect) :
    (elements.foldl mergeMember .empty).answers id aspect = true ↔
      ∃ element ∈ elements, idOf element = id ∧ states element aspect = true := by
  constructor
  · exact h.underFirstKind.isolated id aspect
  · rintro ⟨element, hmem, rfl, hstates⟩
    obtain ⟨first, hfirst, hkey, hkind⟩ := exists_firstKind? hmem
    refine (answers_foldl_iff _ aspect).2 ⟨?_, element, hmem, rfl, hstates⟩
    rw [hkind, h first hfirst element hmem hkey]

/-- The facts of different kinds with one key are kept apart just where everything that is said about
a key is also said under the kind of the first member with the key. -/
theorem isolated_iff_underFirstKind {merged : AnnotationMap} {roots : List Element}
    (h : mergeAll .empty roots = .ok merged) :
    Isolated (members roots) merged ↔ UnderFirstKind (members roots) := by
  rw [mergeAll_eq_foldl h]
  exact ⟨Isolated.underFirstKind, UnderFirstKind.isolated⟩

theorem isolated_iff_underFirstKind_sample : ∃ merged, mergeAll .empty sampleRoots = .ok merged ∧
    (Isolated (members sampleRoots) merged ↔ UnderFirstKind (members sampleRoots)) := by
  have hmerge : mergeAll .empty sampleRoots = .ok (.ofList
      [("A", ⟨"T", false, .ofList [("p", true)]⟩),
        ("B", ⟨"P", true, .ofList [("y", true)]⟩)]) := by decide +kernel
  exact ⟨_, hmerge, isolated_iff_underFirstKind hmerge⟩

/-- So they are kept apart if no key occurs under two kinds. -/
theorem isolated_of_kind_eq {merged : AnnotationMap} {roots : List Element}
    (h : mergeAll .empty roots = .ok merged)
    (hkinds : OneKindPerKey (members roots)) : Isolated (members roots) merged := by
  rw [mergeAll_eq_foldl h]
  exact hkinds.underFirstKind.isolated

/-- A document that names a type first, and then says that a method with the same key is
annotated. -/
def sharedRoots : List Element :=
  [⟨"assembly", [], [memberNamed "T:A" [],
    memberNamed "M:A" [attributeOf notNullConstructor]]⟩]

/-- The type counts as annotated because of what is said about the method. -/
theorem not_isolated_sharedRoots :
    ¬ ∀ roots merged, mergeAll .empty roots = .ok merged → Isolated (members roots) merged := by
  intro hclaim
  have hmerge : mergeAll .empty sharedRoots = .ok (.ofList [("A", ⟨"T", true, .empty⟩)]) := by
    decide +kernel
  have hanswers : answers (.ofList [("A", ⟨"T", true, .empty⟩)]) ⟨"T", "A"⟩ .value = true := by
    decide +kernel
  have hnone : ¬ ∃ element ∈ members sharedRoots,
      idOf element = ⟨"T", "A"⟩ ∧ isMarked element = true := by
    decide +kernel
  exact hnone (hclaim _ _ hmerge ⟨"T", "A"⟩ .value hanswers)

end Nullability.AnnotationMap
