import Mathlib.Tactic
import Nullability.AnnotationMap.Load

/-!
# Documents that come again

Declared facts are only added to a map: what a map knows it still knows after any further
declarations (`Extends`), and declaring what is known changes nothing. A document tells of a member
before it tells facts about it, so whatever it declares, be it up to a fault, is known once it was
merged. Main statement: whatever was merged in between, merging a document again changes nothing and
ends as it did the first time.
-/

namespace Nullability

/-- The key that a declaration is about. -/
def Declaration.key : Declaration → String
  | member id => id.key
  | annotated key => key
  | parameter key _ => key

/-- Whether facts say of a member all that other facts say. -/
structure MemberFacts.Extends (facts more : MemberFacts) : Prop where
  kind : more.kind = facts.kind
  annotated : facts.isAnnotated = true → more.isAnnotated = true
  parameters : ∀ name, facts.parameters.get? name = some true →
    more.parameters.get? name = some true

namespace AnnotationMap
open Xml (Element)

variable {m n o : AnnotationMap} {d : Declaration} {key : String} {facts : MemberFacts}

/-! ## Growth -/

/-- Whether a map says all that another one says. -/
def Extends (m n : AnnotationMap) : Prop :=
  ∀ key facts, m.get? key = some facts → ∃ more, n.get? key = some more ∧ facts.Extends more

lemma Extends.refl (m : AnnotationMap) : m.Extends m :=
  fun _ facts h => ⟨facts, h, rfl, id, fun _ => id⟩

lemma Extends.trans (hmn : m.Extends n) (hno : n.Extends o) : m.Extends o := by
  intro key facts h
  obtain ⟨more, hmore, hkind, hannotated, hparameters⟩ := hmn key facts h
  obtain ⟨most, hmost, hkind', hannotated', hparameters'⟩ := hno key more hmore
  exact ⟨most, hmost, hkind'.trans hkind, hannotated' ∘ hannotated,
    fun name => hparameters' name ∘ hparameters name⟩

/-- A map grows where the facts under one key do. -/
lemma extends_insert {more : MemberFacts}
    (h : ∀ facts, m.get? key = some facts → facts.Extends more) : m.Extends (m.insert key more) := by
  intro other facts hfacts
  rw [OrderedMap.get?_insert]
  split_ifs with heq
  · subst heq
    exact ⟨more, rfl, h facts hfacts⟩
  · exact ⟨facts, hfacts, rfl, id, fun _ => id⟩

lemma extends_update {f : MemberFacts → MemberFacts}
    (h : ∀ facts : MemberFacts, facts.Extends (f facts)) : m.Extends (m.update key f) := by
  rw [update]
  split
  · rename_i facts hfacts
    apply extends_insert
    intro found hfound
    rw [hfacts] at hfound
    obtain rfl := Option.some.inj hfound
    exact h facts
  · exact .refl m

/-- Declaring a fact keeps what is known. -/
lemma extends_declare (m : AnnotationMap) (d : Declaration) : m.Extends (m.declare d) := by
  cases d with
  | member id =>
    apply extends_insert
    intro facts hfacts
    rw [factsFor, hfacts]
    exact ⟨rfl, fun h => h, fun _ h => h⟩
  | annotated key =>
    exact extends_update fun facts => ⟨rfl, fun _ => rfl, fun _ h => h⟩
  | parameter key name =>
    refine extends_update fun facts => ⟨rfl, fun h => h, fun other h => ?_⟩
    rw [OrderedMap.get?_insert]
    split_ifs
    · rfl
    · exact h

lemma extends_declareAll (m : AnnotationMap) (declarations : List Declaration) :
    m.Extends (m.declareAll declarations) := by
  induction declarations generalizing m with
  | nil => exact .refl m
  | cons d rest ih => exact (extends_declare m d).trans (ih (m.declare d))

/-! ## What a map knows -/

/-- Whether a map says already what a declaration says. -/
def Knows (m : AnnotationMap) : Declaration → Prop
  | .member id => ∃ facts, m.get? id.key = some facts
  | .annotated key => ∃ facts, m.get? key = some facts ∧ facts.isAnnotated = true
  | .parameter key name =>
    ∃ facts, m.get? key = some facts ∧ facts.parameters.get? name = some true

lemma Knows.mono (h : m.Knows d) (hgrown : m.Extends n) : n.Knows d := by
  cases d with
  | member id =>
    obtain ⟨facts, hfacts⟩ := h
    obtain ⟨more, hmore, -⟩ := hgrown _ _ hfacts
    exact ⟨more, hmore⟩
  | annotated key =>
    obtain ⟨facts, hfacts, hannotated⟩ := h
    obtain ⟨more, hmore, hextends⟩ := hgrown _ _ hfacts
    exact ⟨more, hmore, hextends.annotated hannotated⟩
  | parameter key name =>
    obtain ⟨facts, hfacts, hparameter⟩ := h
    obtain ⟨more, hmore, hextends⟩ := hgrown _ _ hfacts
    exact ⟨more, hmore, hextends.parameters name hparameter⟩

/-- Declaring what is known changes nothing, not even the order of the parameters. -/
lemma declare_of_knows (h : m.Knows d) : m.declare d = m := by
  cases d with
  | member id =>
    obtain ⟨facts, hfacts⟩ := h
    rw [declare, getOrAdd, factsFor, hfacts]
    exact OrderedMap.insert_of_get?_eq_some hfacts
  | annotated key =>
    obtain ⟨facts, hfacts, hannotated⟩ := h
    have hsame : { facts with isAnnotated := true } = facts := by rw [← hannotated]
    rw [declare, update, hfacts]
    dsimp only
    rw [hsame]
    exact OrderedMap.insert_of_get?_eq_some hfacts
  | parameter key name =>
    obtain ⟨facts, hfacts, hparameter⟩ := h
    rw [declare, update, hfacts]
    dsimp only
    rw [OrderedMap.insert_of_get?_eq_some hparameter]
    exact OrderedMap.insert_of_get?_eq_some hfacts

lemma declareAll_of_knows {declarations : List Declaration} (h : ∀ d ∈ declarations, m.Knows d) :
    m.declareAll declarations = m := by
  induction declarations with
  | nil => rfl
  | cons d rest ih =>
    obtain ⟨hd, hrest⟩ := List.forall_mem_cons.1 h
    rw [declareAll, List.foldl_cons, declare_of_knows hd]
    exact ih hrest

/-- A fact is known once it was declared of a member that has an entry. -/
lemma knows_declare (h : m.get? d.key = some facts) : (m.declare d).Knows d := by
  cases d with
  | member id =>
    refine ⟨m.factsFor id, ?_⟩
    rw [declare, getOrAdd, OrderedMap.get?_insert, if_pos rfl]
  | annotated key =>
    change m.get? key = some facts at h
    refine ⟨{ facts with isAnnotated := true }, ?_, rfl⟩
    rw [declare, update, h]
    dsimp only
    rw [OrderedMap.get?_insert, if_pos rfl]
  | parameter key name =>
    change m.get? key = some facts at h
    refine ⟨{ facts with parameters := facts.parameters.insert name true }, ?_, ?_⟩
    · rw [declare, update, h]
      dsimp only
      rw [OrderedMap.get?_insert, if_pos rfl]
    · rw [OrderedMap.get?_insert, if_pos rfl]

/-- Facts that are declared of a member with an entry are all known in the end. -/
lemma knows_declareAll {declarations : List Declaration} (hkey : ∀ d ∈ declarations, d.key = key)
    (h : m.get? key = some facts) : ∀ d ∈ declarations, (m.declareAll declarations).Knows d := by
  induction declarations generalizing m facts with
  | nil => exact fun _ hd => absurd hd List.not_mem_nil
  | cons first rest ih =>
    obtain ⟨hfirst, hrest⟩ := List.forall_mem_cons.1 hkey
    obtain ⟨more, hmore, -⟩ := extends_declare m first key facts h
    rw [List.forall_mem_cons]
    refine ⟨?_, ih hrest hmore⟩
    exact (knows_declare (hfirst ▸ h)).mono (extends_declareAll (m.declare first) rest)

/-! ## What a document declares -/

/-- Whether all of some declarations are known once they were made, whatever was known before. -/
def Lasts (declarations : List Declaration) : Prop :=
  ∀ (m : AnnotationMap), ∀ d ∈ declarations, (m.declareAll declarations).Knows d

lemma lasts_nil : Lasts [] :=
  fun _ _ hd => absurd hd List.not_mem_nil

lemma Lasts.append {before after : List Declaration} (hbefore : Lasts before)
    (hafter : Lasts after) : Lasts (before ++ after) := by
  intro m d hd
  rw [declareAll, List.foldl_append]
  cases List.mem_append.1 hd with
  | inl hd => exact (hbefore m d hd).mono (extends_declareAll _ after)
  | inr hd => exact hafter _ d hd

/-- A member is told before the facts about it. -/
lemma lasts_member {id : MemberId} {declarations : List Declaration}
    (hkey : ∀ d ∈ declarations, d.key = id.key) : Lasts (.member id :: declarations) := by
  intro m
  have hentry : (m.declare (.member id)).get? id.key = some (m.factsFor id) := by
    rw [declare, getOrAdd, OrderedMap.get?_insert, if_pos rfl]
  have hknows : (m.declare (.member id)).Knows (.member id) := ⟨_, hentry⟩
  rw [List.forall_mem_cons]
  exact ⟨hknows.mono (extends_declareAll _ declarations), knows_declareAll hkey hentry⟩

/-- Two parts in order declare what the first one does, and perhaps also what the second one does. -/
lemma declarations_append_cases (a b : Reading) :
    (a ++ b).declarations = a.declarations ∨
      (a ++ b).declarations = a.declarations ++ b.declarations := by
  change (a.append b).declarations = _ ∨ (a.append b).declarations = _
  rw [Reading.append]
  cases a.fault with
  | some missing => exact .inl rfl
  | none => exact .inr rfl

lemma lasts_all {parts : List Reading} (h : ∀ part ∈ parts, Lasts part.declarations) :
    Lasts (Reading.all parts).declarations := by
  induction parts with
  | nil => exact lasts_nil
  | cons part parts ih =>
    obtain ⟨hpart, hparts⟩ := List.forall_mem_cons.1 h
    change Lasts (part ++ Reading.all parts).declarations
    rcases declarations_append_cases part (Reading.all parts) with heq | heq
    · rw [heq]
      exact hpart
    · rw [heq]
      exact hpart.append (ih hparts)

/-- What parts declare is declared by one of them. -/
lemma exists_part {parts : List Reading} (h : d ∈ (Reading.all parts).declarations) :
    ∃ part ∈ parts, d ∈ part.declarations := by
  induction parts with
  | nil => exact absurd h List.not_mem_nil
  | cons part parts ih =>
    change d ∈ (part ++ Reading.all parts).declarations at h
    rw [List.exists_mem_cons_iff]
    rcases declarations_append_cases part (Reading.all parts) with heq | heq
    · rw [heq] at h
      exact .inl h
    · rw [heq, List.mem_append] at h
      exact h.imp_right ih

lemma eq_of_mem_readAttribute {fact : Declaration} {element : Element}
    (h : d ∈ (readAttribute fact element).declarations) : d = fact := by
  rw [readAttribute] at h
  split at h
  · exact absurd h List.not_mem_nil
  · split at h
    · exact List.mem_singleton.1 h
    · exact absurd h List.not_mem_nil

/-- What stands inside a member is about this member. -/
lemma key_of_mem_readChild {element : Element} (h : d ∈ (readChild key element).declarations) :
    d.key = key := by
  rw [readChild] at h
  split at h
  · rw [eq_of_mem_readAttribute h]
    rfl
  · split at h
    · rw [readParameter] at h
      split at h
      · exact absurd h List.not_mem_nil
      · obtain ⟨part, hpart, hd⟩ := exists_part h
        obtain ⟨child, -, rfl⟩ := List.mem_map.1 hpart
        rw [eq_of_mem_readAttribute hd]
        rfl
    · exact absurd h List.not_mem_nil

lemma lasts_readMember (element : Element) : Lasts (readMember element).declarations := by
  rw [readMember]
  split
  · exact lasts_nil
  · rename_i name _
    apply lasts_member
    intro d hd
    obtain ⟨part, hpart, hd⟩ := exists_part hd
    obtain ⟨child, -, rfl⟩ := List.mem_map.1 hpart
    exact key_of_mem_readChild hd

/-- Whatever a document declares, be it up to a fault, is known once it was merged. -/
lemma lasts_readDocument (root : Element) : Lasts (readDocument root).declarations := by
  rw [readDocument]
  split
  · apply lasts_all
    intro part hpart
    obtain ⟨element, -, rfl⟩ := List.mem_map.1 hpart
    exact lasts_readMember element
  · exact lasts_nil

/-! ## Documents -/

/-- Merges documents with their sources one after the other, each as far as it can be read. -/
def loadEach (m : AnnotationMap) (documents : List (String × List UInt8)) : AnnotationMap :=
  documents.foldl (fun m document => (m.loadDocument document.1 document.2).1) m

lemma extends_loadDocument (m : AnnotationMap) (source : String) (bytes : List UInt8) :
    m.Extends (m.loadDocument source bytes).1 := by
  rw [loadDocument]
  split
  · exact .refl m
  · exact extends_declareAll m _

lemma extends_loadEach (m : AnnotationMap) (documents : List (String × List UInt8)) :
    m.Extends (m.loadEach documents) := by
  induction documents generalizing m with
  | nil => exact .refl m
  | cons document rest ih =>
    exact (extends_loadDocument m document.1 document.2).trans (ih _)

/-- Whatever was known before and whatever was merged in between, merging a document again changes
nothing and ends as it did the first time, also if one of the documents cannot be read to its end. -/
theorem loadDocument_absorbed (m : AnnotationMap) (source : String) (bytes : List UInt8)
    (others : List (String × List UInt8)) :
    let after := loadEach (m.loadDocument source bytes).1 others
    after.loadDocument source bytes = (after, (m.loadDocument source bytes).2) := by
  intro after
  have hgrown : (m.loadDocument source bytes).1.Extends after := extends_loadEach _ others
  rw [loadDocument] at hgrown ⊢
  rw [loadDocument]
  cases hroot : Xml.Element.ofBytes bytes with
  | error refusal => rfl
  | ok root =>
    rw [hroot] at hgrown
    have hknown : ∀ d ∈ (readDocument root).declarations, after.Knows d :=
      fun d hd => (lasts_readDocument root m d hd).mono hgrown
    have hsame : after.mergeDocument root = (after, (readDocument root).fault) := by
      rw [mergeDocument, declareAll_of_knows hknown]
    dsimp only
    rw [hsame]
    rfl

end AnnotationMap

end Nullability
