import Nullability.Proofs.AnnotationMap.KindIsolation

/-!
# Names of members and documentation ids

Documents name members, and symbols carry documentation ids. Both are split at a colon in second
place, but not in the same way: an id may end with that colon, while a name that does so has no
kind, and a name without a kind is of the unknown kind, which an id can spell out. So a map answers
for an id what is said about the members whose name it is, except that an id without a key stands
for none of them, and that an id of the unknown kind stands for those whose name is its key
(`answersFor_denoting`).
-/

namespace Nullability

namespace MemberId

/-- Whether a member name has a kind: a character, a colon, and something behind it. -/
def HasKind (name : String) : Prop :=
  ∃ kind first rest, name.toList = kind :: ':' :: first :: rest

/-- Whether a member name is about what a documentation id stands for: it has a kind and is that id,
or it has none, and the id is the name under the unknown kind. -/
def Denotes (name id : String) : Prop :=
  HasKind name ∧ name = id ∨ ¬ HasKind name ∧ id = unknownKind ++ ":" ++ name

lemma ofMemberName_of_toList {name : String} {kind first : Char} {rest : List Char}
    (h : name.toList = kind :: ':' :: first :: rest) :
    ofMemberName name = ⟨String.ofList [kind], String.ofList (first :: rest)⟩ := by
  simp only [ofMemberName, h]

lemma ofMemberName_of_not_hasKind {name : String} (h : ¬ HasKind name) :
    ofMemberName name = ⟨unknownKind, name⟩ := by
  rw [ofMemberName]
  split
  · rename_i kind first rest hname
    exact absurd ⟨kind, first, rest, hname⟩ h
  · rfl

lemma ofDocumentationId?_eq_some {d : String} {id : MemberId} (h : ofDocumentationId? d = some id) :
    ∃ kind key, d.toList = kind :: ':' :: key ∧ id = ⟨String.ofList [kind], String.ofList key⟩ := by
  rw [ofDocumentationId?] at h
  split at h
  · rename_i kind key hd
    exact ⟨kind, key, hd, (Option.some.inj h).symm⟩
  · cases h

/-- A member name and a documentation id are split into the same kind and key just if the name is
about what the id stands for. -/
lemma ofMemberName_eq_iff {d : String} {id : MemberId} (hd : ofDocumentationId? d = some id)
    (name : String) : ofMemberName name = id ↔ Denotes name d := by
  obtain ⟨kind, key, hlist, rfl⟩ := ofDocumentationId?_eq_some hd
  by_cases hname : HasKind name
  · have hself : Denotes name d ↔ name = d := by simp [Denotes, hname]
    obtain ⟨kind', first, rest, hsplit⟩ := hname
    rw [ofMemberName_of_toList hsplit, hself, ← String.toList_inj, hsplit, hlist, mk.injEq,
      String.ofList_inj, String.ofList_inj]
    simp
  · have hunder : Denotes name d ↔ d = unknownKind ++ ":" ++ name := by simp [Denotes, hname]
    have htoList : (unknownKind ++ ":" ++ name).toList = '?' :: ':' :: name.toList := by
      rw [String.toList_append]
      rfl
    have hunknown : unknownKind = String.ofList ['?'] := rfl
    rw [ofMemberName_of_not_hasKind hname, hunder, ← String.toList_inj, htoList, hlist, mk.injEq,
      hunknown, String.ofList_inj, ← String.toList_inj, String.toList_ofList]
    simp [eq_comm]

end MemberId

namespace AnnotationMap
open Xml (Element)

/-! ## Members have names -/

lemma exists_name_of_readMember {member : Element} (h : (readMember member).fault = none) :
    ∃ name, member.get? "name" = some name := by
  cases hname : member.get? "name" with
  | none => simp [readMember, hname, Reading.lacks] at h
  | some name => exact ⟨name, rfl⟩

/-- In documents that can be read to their ends every member has a name. -/
lemma exists_name_of_mergeAll {m merged : AnnotationMap} {roots : List Element}
    (h : m.mergeAll roots = .ok merged) :
    ∀ element ∈ members roots, ∃ name, element.get? "name" = some name := by
  induction roots generalizing m with
  | nil => exact fun element hmem => absurd hmem List.not_mem_nil
  | cons root rest ih =>
    rw [mergeAll] at h
    split at h
    · rename_i between hroot
      have hfault : (readDocument root).fault = none := (Prod.mk.inj hroot).2
      intro element hmem
      rw [members, List.flatMap_cons, List.mem_append] at hmem
      obtain hfirst | hlater := hmem
      · split at hfirst
        · rename_i htag
          rw [readDocument, if_pos htag] at hfault
          exact exists_name_of_readMember (fault_all_eq_none.1 hfault _
            (List.mem_map_of_mem hfirst))
        · cases hfirst
      · exact ih h element hlater
    · cases h

/-! ## Symbols -/

/-- Whether a map answers for symbols with a documentation id just what is said about the members
with certain names. -/
structure AnswersFor (elements : List Element) (merged : AnnotationMap) (id : String)
    (named : String → Prop) : Prop where
  /-- A symbol that is no parameter is annotated if such a member is. -/
  value : ∀ symbol : Symbol, symbol.isParameter = false → symbol.documentationId = some id →
    (merged.answersSymbol symbol false = true ↔ ∃ element ∈ elements, ∃ name,
      element.get? "name" = some name ∧ named name ∧ isMarked element = true)
  /-- A parameter is annotated if a parameter with its name is, inside such a member. -/
  parameter : ∀ symbol owner : Symbol, symbol.isParameter = true → symbol.owner = some owner →
    owner.documentationId = some id →
    (merged.answersSymbol symbol false = true ↔ ∃ element ∈ elements, ∃ name,
      element.get? "name" = some name ∧ named name ∧ symbol.name ∈ annotatedParameters element)

variable {elements : List Element}

/-- What is stated about a member is stated under the names that are about it. -/
lemma exists_idOf_eq_iff (hnames : ∀ element ∈ elements, ∃ name, element.get? "name" = some name)
    {d : String} {id : MemberId} (hd : MemberId.ofDocumentationId? d = some id)
    (aspect : Aspect) :
    (∃ element ∈ elements, idOf element = id ∧ states element aspect = true) ↔
      ∃ element ∈ elements, ∃ name, element.get? "name" = some name ∧
        MemberId.Denotes name d ∧ states element aspect = true := by
  constructor
  · rintro ⟨element, hmem, hid, hstates⟩
    obtain ⟨name, hname⟩ := hnames element hmem
    rw [idOf, hname, Option.getD_some] at hid
    exact ⟨element, hmem, name, hname, (MemberId.ofMemberName_eq_iff hd name).1 hid, hstates⟩
  · rintro ⟨element, hmem, name, hname, hdenotes, hstates⟩
    refine ⟨element, hmem, ?_, hstates⟩
    rw [idOf, hname, Option.getD_some]
    exact (MemberId.ofMemberName_eq_iff hd name).2 hdenotes

/-- Where no key is used for two kinds, a map answers for a documentation id just what is said about
the members whose names are about what the id stands for. -/
theorem answersFor_denoting {merged : AnnotationMap} {roots : List Element}
    (hmerge : mergeAll .empty roots = .ok merged) (hkinds : OneKindPerKey (members roots))
    {d : String} {id : MemberId} (hd : MemberId.ofDocumentationId? d = some id) :
    AnswersFor (members roots) merged d (fun name => MemberId.Denotes name d) := by
  have hnames := exists_name_of_mergeAll hmerge
  have hanswers : ∀ aspect, merged.answers id aspect = true ↔
      ∃ element ∈ members roots, ∃ name, element.get? "name" = some name ∧
        MemberId.Denotes name d ∧ states element aspect = true := by
    intro aspect
    rw [mergeAll_eq_foldl hmerge, answers_foldl_iff_states hkinds, exists_idOf_eq_iff hnames hd]
  constructor
  · intro symbol hvalue hid
    have hmember : symbol.member? = some id := by simp [Symbol.member?, hvalue, hid, hd]
    have haspect : aspectOf symbol false = .value := by simp [aspectOf, hvalue]
    rw [answersSymbol, hmember, haspect]
    exact hanswers .value
  · intro symbol owner hparameter howner hid
    have hmember : symbol.member? = some id := by
      simp [Symbol.member?, hparameter, howner, hid, hd]
    have haspect : aspectOf symbol false = .parameter (some symbol.name) := by
      simp [aspectOf, hparameter]
    rw [answersSymbol, hmember, haspect]
    simpa [states] using hanswers (.parameter (some symbol.name))

/-- A member whose name ends with a colon, and one whose name has no kind. -/
def kindlessRoots : List Element :=
  [⟨"assembly", [], [memberNamed "T:" [attributeOf notNullConstructor],
    memberNamed "A" [attributeOf notNullConstructor,
      parameterNamed "p" [attributeOf canBeNullConstructor]]]⟩]

/-- The map of these members. -/
def kindlessMap : AnnotationMap :=
  .ofList [("T:", ⟨"?", true, .empty⟩), ("A", ⟨"?", true, .ofList [("p", true)]⟩)]

theorem answersFor_denoting_kindless :
    mergeAll .empty kindlessRoots = .ok kindlessMap ∧ OneKindPerKey (members kindlessRoots) ∧
      MemberId.ofDocumentationId? "?:A" = some ⟨"?", "A"⟩ ∧
      AnswersFor (members kindlessRoots) kindlessMap "?:A"
        (fun name => MemberId.Denotes name "?:A") := by
  have hmerge : mergeAll .empty kindlessRoots = .ok kindlessMap := by decide +kernel
  have hkinds : OneKindPerKey (members kindlessRoots) := by decide +kernel
  have hid : MemberId.ofDocumentationId? "?:A" = some ⟨"?", "A"⟩ := by decide +kernel
  exact ⟨hmerge, hkinds, hid, answersFor_denoting hmerge hkinds hid⟩

/-- A symbol that is no parameter, by its documentation id. -/
def plainSymbol (id : String) : Symbol :=
  ⟨"", some id, false, none, none⟩

/-- The members with the very name that a documentation id is are not always those it stands for: an
id that ends with its colon stands for none, and one of the unknown kind for others. -/
theorem not_answersFor_namesakes :
    mergeAll .empty kindlessRoots = .ok kindlessMap ∧ OneKindPerKey (members kindlessRoots) ∧
      ∀ d ∈ ["T:", "?:A"], (MemberId.ofDocumentationId? d).isSome = true ∧
        ¬ AnswersFor (members kindlessRoots) kindlessMap d (fun name => name = d) := by
  have hmerge : mergeAll .empty kindlessRoots = .ok kindlessMap := by decide +kernel
  have hkinds : OneKindPerKey (members kindlessRoots) := by decide +kernel
  have hends : ¬ AnswersFor (members kindlessRoots) kindlessMap "T:" (fun name => name = "T:") := by
    intro h
    have hmarked : ∃ element ∈ members kindlessRoots,
        element.get? "name" = some "T:" ∧ isMarked element = true := by decide +kernel
    obtain ⟨element, hmem, hname, hmark⟩ := hmarked
    have hanswer := (h.value (plainSymbol "T:") rfl rfl).2 ⟨element, hmem, _, hname, rfl, hmark⟩
    exact absurd hanswer (by decide +kernel)
  have hunknown :
      ¬ AnswersFor (members kindlessRoots) kindlessMap "?:A" (fun name => name = "?:A") := by
    intro h
    have hnone : ∀ element ∈ members kindlessRoots, element.get? "name" ≠ some "?:A" := by
      decide +kernel
    obtain ⟨element, hmem, name, hname, rfl, -⟩ :=
      (h.value (plainSymbol "?:A") rfl rfl).1 (by decide +kernel)
    exact hnone element hmem hname
  refine ⟨hmerge, hkinds, ?_⟩
  simp only [List.mem_cons, List.not_mem_nil, or_false, forall_eq_or_imp, forall_eq]
  exact ⟨⟨by decide +kernel, hends⟩, by decide +kernel, hunknown⟩

end AnnotationMap

end Nullability
