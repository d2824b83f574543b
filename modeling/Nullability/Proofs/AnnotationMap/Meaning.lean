import Mathlib.Tactic
import Nullability.AnnotationMap.Merge

/-!
# The meaning of merging

Documents that can be read to their ends merge into a map as if their member elements were merged
one after the other, and merging a member puts its facts under its key. Main statement: what the
merged map says about a key is what the map said before together with what the members of that key
say, the first of which decides about the kind of a new entry.
-/

namespace Nullability.AnnotationMap
open Xml (Element)

/-- Merges documents one after the other, up to the first one that lacks an attribute. -/
def mergeAll (m : AnnotationMap) : List Element → Except MissingAttribute AnnotationMap
  | [] => .ok m
  | root :: rest =>
    match m.mergeDocument root with
    | (merged, none) => merged.mergeAll rest
    | (_, some missing) => .error missing

/-! ## What members say -/

/-- The member elements of some documents, in order. -/
def members (roots : List Element) : List Element :=
  roots.flatMap (fun root =>
    if root.tag = "assembly" then root.childrenTagged "member" else [])

/-- The member that a member element is about. -/
def idOf (member : Element) : MemberId :=
  MemberId.ofMemberName ((member.get? "name").getD "")

/-- Whether an attribute element is about nullability. -/
def isNullability (element : Element) : Bool :=
  (element.get? "ctor").any isNullabilityConstructor

/-- Whether an element has an attribute about nullability directly inside it. -/
def isMarked (element : Element) : Bool :=
  (element.childrenTagged "attribute").any isNullability

/-- The names of the annotated parameters of a member, in order. -/
def annotatedParameters (member : Element) : List String :=
  ((member.childrenTagged "parameter").filter isMarked).filterMap (fun parameter =>
    parameter.get? "name")

/-- The facts of a member together with what a member element says. -/
def extended (facts : MemberFacts) (member : Element) : MemberFacts :=
  ⟨facts.kind, facts.isAnnotated || isMarked member,
    (annotatedParameters member).foldl (fun flags name => flags.insert name true) facts.parameters⟩

/-- Puts what a member element says under its key. -/
def mergeMember (m : AnnotationMap) (member : Element) : AnnotationMap :=
  m.insert (idOf member).key (extended (m.factsFor (idOf member)) member)

/-! ## Readings without a fault -/

lemma fault_append_eq_none {a b : Reading} :
    (a ++ b).fault = none ↔ a.fault = none ∧ b.fault = none := by
  show (a.append b).fault = none ↔ _
  rw [Reading.append]
  cases ha : a.fault with
  | none => simp
  | some missing => simp [ha]

lemma declarations_append {a b : Reading} (h : a.fault = none) :
    (a ++ b).declarations = a.declarations ++ b.declarations := by
  show (a.append b).declarations = _
  rw [Reading.append, h]

lemma fault_all_eq_none {parts : List Reading} :
    (Reading.all parts).fault = none ↔ ∀ part ∈ parts, part.fault = none := by
  induction parts with
  | nil => simp [Reading.all, Reading.nothing]
  | cons part parts ih =>
    show (part ++ Reading.all parts).fault = none ↔ _
    rw [fault_append_eq_none, ih, List.forall_mem_cons]

lemma declarations_all {parts : List Reading} (h : (Reading.all parts).fault = none) :
    (Reading.all parts).declarations = parts.flatMap Reading.declarations := by
  induction parts with
  | nil => rfl
  | cons part parts ih =>
    obtain ⟨hpart, hparts⟩ := fault_append_eq_none.1 h
    show (part ++ Reading.all parts).declarations = _
    rw [declarations_append hpart, ih hparts, List.flatMap_cons]

lemma declareAll_append (m : AnnotationMap) (before after : List Declaration) :
    m.declareAll (before ++ after) = (m.declareAll before).declareAll after :=
  List.foldl_append

/-! ## One member -/

lemma update_insert (m : AnnotationMap) (key : String) (facts : MemberFacts)
    (f : MemberFacts → MemberFacts) :
    update (m.insert key facts) key f = m.insert key (f facts) := by
  rw [update, OrderedMap.get?_insert, if_pos rfl]
  exact OrderedMap.insert_insert m key facts (f facts)

/-- An attribute that can be read adds its fact if it is about nullability. -/
lemma declareAll_readAttribute {m m' : AnnotationMap} {fact : Declaration} {element : Element}
    (h : (readAttribute fact element).fault = none) (hfact : m.declare fact = m') :
    m.declareAll (readAttribute fact element).declarations =
      if isNullability element then m' else m := by
  cases hctor : element.get? "ctor" with
  | none => simp [readAttribute, hctor, Reading.lacks] at h
  | some name =>
    by_cases hname : isNullabilityConstructor name
    · simpa [readAttribute, isNullability, hctor, hname, Reading.declares, declareAll] using hfact
    · simp [readAttribute, isNullability, hctor, hname, Reading.nothing, declareAll]

/-- The facts together with what an element inside a member says. -/
def extendedBy (facts : MemberFacts) (child : Element) : MemberFacts :=
  if child.tag = "attribute" then
    if isNullability child then { facts with isAnnotated := true } else facts
  else if child.tag = "parameter" then
    if isMarked child then
      { facts with
        parameters := facts.parameters.insert ((child.get? "name").getD "") true }
    else facts
  else facts

/-- The attributes of a parameter add the parameter once, however many there are. -/
lemma declareAll_parameterAttributes {m : AnnotationMap} {key name : String}
    {facts : MemberFacts} {elements : List Element}
    (h : ∀ element ∈ elements, (readAttribute (.parameter key name) element).fault = none) :
    declareAll (m.insert key facts) (elements.flatMap (fun element =>
        (readAttribute (.parameter key name) element).declarations)) =
      m.insert key (if elements.any isNullability then
        { facts with parameters := facts.parameters.insert name true } else facts) := by
  induction elements generalizing facts with
  | nil => rfl
  | cons element elements ih =>
    obtain ⟨helement, helements⟩ := List.forall_mem_cons.1 h
    have hfact : declare (m.insert key facts) (.parameter key name) =
        m.insert key { facts with parameters := facts.parameters.insert name true } :=
      update_insert m key facts _
    rw [List.flatMap_cons, declareAll_append, declareAll_readAttribute helement hfact,
      List.any_cons]
    cases isNullability element with
    | false => simpa using ih helements
    | true =>
      rw [if_pos rfl, ih helements]
      simp

lemma declareAll_readParameter {m : AnnotationMap} {key : String} {facts : MemberFacts}
    {parameter : Element} (h : (readParameter key parameter).fault = none) :
    declareAll (m.insert key facts) (readParameter key parameter).declarations =
      m.insert key (if isMarked parameter then
        { facts with
          parameters := facts.parameters.insert ((parameter.get? "name").getD "") true }
        else facts) := by
  cases hname : parameter.get? "name" with
  | none => simp [readParameter, hname, Reading.lacks] at h
  | some name =>
    simp only [readParameter, hname] at h ⊢
    have hparts := fault_all_eq_none.1 h
    rw [List.forall_mem_map] at hparts
    rw [declarations_all h, List.flatMap_map, declareAll_parameterAttributes hparts]
    rfl

lemma declareAll_readChild {m : AnnotationMap} {key : String} {facts : MemberFacts}
    {child : Element} (h : (readChild key child).fault = none) :
    declareAll (m.insert key facts) (readChild key child).declarations =
      m.insert key (extendedBy facts child) := by
  by_cases hattribute : child.tag = "attribute"
  · have hfact : declare (m.insert key facts) (.annotated key) =
        m.insert key { facts with isAnnotated := true } := update_insert m key facts _
    rw [readChild, if_pos hattribute] at h ⊢
    rw [declareAll_readAttribute h hfact, extendedBy, if_pos hattribute]
    split_ifs <;> rfl
  · by_cases hparameter : child.tag = "parameter"
    · rw [readChild, if_neg hattribute, if_pos hparameter] at h ⊢
      rw [declareAll_readParameter h, extendedBy, if_neg hattribute, if_pos hparameter]
    · rw [readChild, if_neg hattribute, if_neg hparameter, extendedBy, if_neg hattribute,
        if_neg hparameter]
      rfl

lemma declareAll_readChildren {m : AnnotationMap} {key : String} {facts : MemberFacts}
    {children : List Element} (h : ∀ child ∈ children, (readChild key child).fault = none) :
    declareAll (m.insert key facts)
        (children.flatMap (fun child => (readChild key child).declarations)) =
      m.insert key (children.foldl extendedBy facts) := by
  induction children generalizing facts with
  | nil => rfl
  | cons child children ih =>
    obtain ⟨hchild, hchildren⟩ := List.forall_mem_cons.1 h
    rw [List.flatMap_cons, declareAll_append, declareAll_readChild hchild, ih hchildren,
      List.foldl_cons]

/-- The elements inside a member that can be read together say what the member says. -/
lemma foldl_extendedBy {children : List Element} {facts : MemberFacts}
    (h : ∀ child ∈ children, child.tag = "parameter" → (child.get? "name").isSome) :
    children.foldl extendedBy facts =
      ⟨facts.kind,
        facts.isAnnotated || (children.filter (fun child => child.tag = "attribute")).any
          isNullability,
        (((children.filter (fun child => child.tag = "parameter")).filter isMarked).filterMap
          (fun parameter => parameter.get? "name")).foldl
            (fun flags name => flags.insert name true) facts.parameters⟩ := by
  induction children generalizing facts with
  | nil => simp
  | cons child children ih =>
    obtain ⟨hchild, hchildren⟩ := List.forall_mem_cons.1 h
    rw [List.foldl_cons, ih hchildren, extendedBy]
    by_cases hattribute : child.tag = "attribute"
    · have hparameter : child.tag ≠ "parameter" := by
        rw [hattribute]
        decide
      cases hmark : isNullability child <;> simp [*]
    · by_cases hparameter : child.tag = "parameter"
      · obtain ⟨name, hname⟩ := Option.isSome_iff_exists.1 (hchild hparameter)
        cases hmarked : isMarked child <;> simp [*]
      · simp [*]

/-- A member that can be read has a name, and so have its parameters. -/
lemma declareAll_readMember {m : AnnotationMap} {member : Element}
    (h : (readMember member).fault = none) :
    m.declareAll (readMember member).declarations = m.mergeMember member := by
  cases hname : member.get? "name" with
  | none => simp [readMember, hname, Reading.lacks] at h
  | some name =>
    have hid : idOf member = MemberId.ofMemberName name := by rw [idOf, hname]; rfl
    simp only [readMember, hname, ← hid] at h ⊢
    obtain ⟨_, hall⟩ := fault_append_eq_none.1 h
    have hchildren := fault_all_eq_none.1 hall
    rw [List.forall_mem_map] at hchildren
    have hnamed : ∀ child ∈ member.children, child.tag = "parameter" →
        (child.get? "name").isSome := by
      intro child hmem htag
      have hchild := hchildren child hmem
      cases hget : child.get? "name" with
      | none => simp [readChild, htag, readParameter, hget, Reading.lacks] at hchild
      | some name => rfl
    rw [declarations_append rfl, declarations_all hall, List.flatMap_map, declareAll_append]
    show declareAll (m.getOrAdd (idOf member)) _ = _
    rw [getOrAdd, declareAll_readChildren hchildren, foldl_extendedBy hnamed]
    rfl

/-! ## Documents -/

lemma declareAll_members {m : AnnotationMap} {elements : List Element}
    (h : ∀ element ∈ elements, (readMember element).fault = none) :
    m.declareAll (elements.flatMap (fun element => (readMember element).declarations)) =
      elements.foldl mergeMember m := by
  induction elements generalizing m with
  | nil => rfl
  | cons element elements ih =>
    obtain ⟨helement, helements⟩ := List.forall_mem_cons.1 h
    rw [List.flatMap_cons, declareAll_append, declareAll_readMember helement, ih helements,
      List.foldl_cons]

lemma mergeDocument_of_fault_eq_none {m merged : AnnotationMap} {root : Element}
    (h : m.mergeDocument root = (merged, none)) : merged = (members [root]).foldl mergeMember m := by
  obtain ⟨hmerged, hfault⟩ := Prod.mk.inj h
  rw [← hmerged, members, List.flatMap_cons, List.flatMap_nil, List.append_nil]
  by_cases htag : root.tag = "assembly"
  · rw [readDocument, if_pos htag] at hfault ⊢
    have hmembers := fault_all_eq_none.1 hfault
    rw [List.forall_mem_map] at hmembers
    rw [if_pos htag, declarations_all hfault, List.flatMap_map, declareAll_members hmembers]
  · rw [readDocument, if_neg htag, if_neg htag]
    rfl

/-- Documents that can be read merge as their members do, one after the other. -/
lemma mergeAll_eq_foldl {m merged : AnnotationMap} {roots : List Element}
    (h : m.mergeAll roots = .ok merged) : merged = (members roots).foldl mergeMember m := by
  induction roots generalizing m with
  | nil =>
    cases h
    rfl
  | cons root roots ih =>
    rw [mergeAll] at h
    split at h
    · rename_i between hroot
      have hbetween := mergeDocument_of_fault_eq_none hroot
      rw [ih h, hbetween, ← List.foldl_append]
      simp only [members, List.flatMap_cons, List.flatMap_nil, List.append_nil]
    · cases h

/-! ## Members of one key -/

/-- The members of a key, in order. -/
def membersOf (key : String) (elements : List Element) : List Element :=
  elements.filter (fun element => (idOf element).key = key)

/-- What is known about a key before its members are looked at: what the map says, or else only the
kind of the first member. -/
def startOf (m : AnnotationMap) (elements : List Element) (key : String) : Option MemberFacts :=
  (m.get? key).or ((membersOf key elements).head?.map (fun first =>
    MemberFacts.ofKind (idOf first).kind))

lemma get?_mergeMember (m : AnnotationMap) (element : Element) (key : String) :
    (m.mergeMember element).get? key =
      if (idOf element).key = key then some (extended (m.factsFor (idOf element)) element)
      else m.get? key :=
  OrderedMap.get?_insert m _ key _

/-- Each key is extended by its own members. -/
lemma get?_foldl_mergeMember (m : AnnotationMap) (elements : List Element) (key : String) :
    (elements.foldl mergeMember m).get? key =
      (startOf m elements key).map (fun facts => (membersOf key elements).foldl extended facts) := by
  induction elements generalizing m with
  | nil => simp [startOf, membersOf]
  | cons element elements ih =>
    rw [List.foldl_cons, ih]
    by_cases hkey : (idOf element).key = key
    · have hmembers : membersOf key (element :: elements) = element :: membersOf key elements := by
        simp [membersOf, hkey]
      rw [startOf, startOf, get?_mergeMember, if_pos hkey, hmembers]
      cases hget : m.get? key <;> simp [factsFor, hkey, hget]
    · have hmembers : membersOf key (element :: elements) = membersOf key elements := by
        simp [membersOf, hkey]
      rw [startOf, startOf, get?_mergeMember, if_neg hkey, hmembers]

lemma foldl_extended (elements : List Element) (facts : MemberFacts) :
    elements.foldl extended facts =
      ⟨facts.kind, facts.isAnnotated || elements.any isMarked,
        (elements.flatMap annotatedParameters).foldl (fun flags name => flags.insert name true)
          facts.parameters⟩ := by
  induction elements generalizing facts with
  | nil => simp
  | cons element elements ih =>
    rw [List.foldl_cons, ih, extended, List.any_cons, List.flatMap_cons, List.foldl_append,
      Bool.or_assoc]

/-- The facts that are known about a key after merging. -/
lemma get?_foldl_eq_some_iff (m : AnnotationMap) (elements : List Element) (key : String)
    (facts : MemberFacts) :
    (elements.foldl mergeMember m).get? key = some facts ↔
      ∃ start, startOf m elements key = some start ∧ facts.kind = start.kind ∧
        facts.isAnnotated = (start.isAnnotated || (membersOf key elements).any isMarked) ∧
        facts.parameters = ((membersOf key elements).flatMap annotatedParameters).foldl
          (fun flags name => flags.insert name true) start.parameters := by
  rw [get?_foldl_mergeMember, Option.map_eq_some_iff]
  simp only [foldl_extended]
  obtain ⟨kind, annotated, parameters⟩ := facts
  simp only [MemberFacts.mk.injEq, eq_comm]

/-! ## The meaning of merging -/

/-- The kind of a key's entry: that of the old entry, or else of the first member with the key. -/
def kindOf? (m : AnnotationMap) (elements : List Element) (key : String) : Option String :=
  match m.get? key with
  | some facts => some facts.kind
  | none => (membersOf key elements).head?.map (fun first => (idOf first).kind)

/-- What a map says after member elements were merged into it. -/
structure Merged (m : AnnotationMap) (elements : List Element) (merged : AnnotationMap) : Prop where
  /-- The old keys come first, then the new ones in order of first occurrence. -/
  keys : merged.keys = m.keys ++
    ((elements.map (fun element => (idOf element).key)).filter (fun key => key ∉ m.keys)).eraseDups
  /-- Every entry is of the kind of the old entry or of the first member. -/
  kind : ∀ key, (merged.get? key).map MemberFacts.kind = kindOf? m elements key
  /-- A member is annotated if it was, or if some member of its key is. -/
  annotated : ∀ key facts, merged.get? key = some facts →
    (facts.isAnnotated = true ↔ (∃ old, m.get? key = some old ∧ old.isAnnotated = true) ∨
      ∃ element ∈ elements, (idOf element).key = key ∧ isMarked element = true)
  /-- A parameter is annotated if it was, or if some member of its key annotates it. -/
  annotatedParameter : ∀ key facts name, merged.get? key = some facts →
    (facts.parameters.get? name = some true ↔
      (∃ old, m.get? key = some old ∧ old.parameters.get? name = some true) ∨
      ∃ element ∈ elements, (idOf element).key = key ∧ name ∈ annotatedParameters element)
  /-- A parameter is known not to be annotated if it was and no member of its key annotates it. -/
  plainParameter : ∀ key facts name, merged.get? key = some facts →
    (facts.parameters.get? name = some false ↔
      (∃ old, m.get? key = some old ∧ old.parameters.get? name = some false) ∧
      ¬ ∃ element ∈ elements, (idOf element).key = key ∧ name ∈ annotatedParameters element)
  /-- The old parameters come first, then the new ones in order of first occurrence. -/
  parameters : ∀ key facts, merged.get? key = some facts →
    let old := ((m.get? key).map (fun old => old.parameters.keys)).getD []
    facts.parameters.keys = old ++ (((membersOf key elements).flatMap
      annotatedParameters).filter (fun name => name ∉ old)).eraseDups
  /-- A question about a value is answered by its key, for the kind of the entry. -/
  answersValue : ∀ id, merged.answers id .value = true ↔ kindOf? m elements id.key = some id.kind ∧
    ((∃ old, m.get? id.key = some old ∧ old.isAnnotated = true) ∨
      ∃ element ∈ elements, (idOf element).key = id.key ∧ isMarked element = true)
  /-- A question about a parameter is answered by its key, for the kind of the entry. -/
  answersParameter : ∀ id name, merged.answers id (.parameter (some name)) = true ↔
    kindOf? m elements id.key = some id.kind ∧
    ((∃ old, m.get? id.key = some old ∧ old.parameters.get? name = some true) ∨
      ∃ element ∈ elements, (idOf element).key = id.key ∧ name ∈ annotatedParameters element)

/-- What is known beforehand comes from the map, or is nothing but a kind. -/
lemma start_cases {m : AnnotationMap} {elements : List Element} {key : String}
    {start : MemberFacts} (h : startOf m elements key = some start) :
    m.get? key = some start ∨ m.get? key = none ∧ start = MemberFacts.ofKind start.kind := by
  cases hget : m.get? key with
  | some old =>
    rw [startOf, hget] at h
    exact .inl h
  | none =>
    rw [startOf, hget, Option.none_or, Option.map_eq_some_iff] at h
    obtain ⟨first, _, rfl⟩ := h
    exact .inr ⟨rfl, rfl⟩

lemma start_isAnnotated_iff {m : AnnotationMap} {elements : List Element} {key : String}
    {start : MemberFacts} (h : startOf m elements key = some start) :
    start.isAnnotated = true ↔ ∃ old, m.get? key = some old ∧ old.isAnnotated = true := by
  rcases start_cases h with hget | ⟨hget, hstart⟩
  · simp [hget]
  · rw [hstart]
    simp [hget, MemberFacts.ofKind]

lemma start_parameters_iff {m : AnnotationMap} {elements : List Element} {key : String}
    {start : MemberFacts} (h : startOf m elements key = some start) (name : String) (flag : Bool) :
    start.parameters.get? name = some flag ↔
      ∃ old, m.get? key = some old ∧ old.parameters.get? name = some flag := by
  rcases start_cases h with hget | ⟨hget, hstart⟩
  · simp [hget]
  · rw [hstart]
    simp [hget, MemberFacts.ofKind]

lemma any_membersOf_iff {key : String} {elements : List Element} {p : Element → Bool} :
    (membersOf key elements).any p = true ↔
      ∃ element ∈ elements, (idOf element).key = key ∧ p element = true := by
  simp [membersOf, List.any_eq_true]

lemma mem_flatMap_membersOf_iff {key name : String} {elements : List Element} :
    name ∈ (membersOf key elements).flatMap annotatedParameters ↔
      ∃ element ∈ elements, (idOf element).key = key ∧ name ∈ annotatedParameters element := by
  simp [membersOf, and_assoc]

lemma kind_startOf (m : AnnotationMap) (elements : List Element) (key : String) :
    (startOf m elements key).map MemberFacts.kind = kindOf? m elements key := by
  rw [startOf, kindOf?]
  cases m.get? key with
  | some old => rfl
  | none => cases (membersOf key elements).head? <;> rfl

/-- A question is answered by the facts under its key, if they are of its kind. -/
lemma answers_iff {m : AnnotationMap} {id : MemberId} {aspect : Aspect} {p : MemberFacts → Bool}
    (h : m.answers id aspect = ((m.find? id).map p).getD false) :
    m.answers id aspect = true ↔
      ∃ facts, m.get? id.key = some facts ∧ facts.kind = id.kind ∧ p facts = true := by
  rw [h, find?]
  cases m.get? id.key with
  | none => simp
  | some facts => by_cases hkind : facts.kind = id.kind <;> simp [Option.filter, hkind]

lemma answers_value_iff {m : AnnotationMap} {id : MemberId} :
    m.answers id .value = true ↔
      ∃ facts, m.get? id.key = some facts ∧ facts.kind = id.kind ∧ facts.isAnnotated = true :=
  answers_iff (by cases h : m.find? id <;> simp [answers, h])

lemma answers_parameter_iff {m : AnnotationMap} {id : MemberId} {name : String} :
    m.answers id (.parameter (some name)) = true ↔
      ∃ facts, m.get? id.key = some facts ∧ facts.kind = id.kind ∧
        facts.parameters.get? name = some true := by
  have hflag (facts : MemberFacts) :
      facts.hasParameter name = true ↔ facts.parameters.get? name = some true := by
    rw [MemberFacts.hasParameter]
    cases facts.parameters.get? name with
    | none => simp
    | some flag => simp
  simp only [← hflag]
  exact answers_iff (by cases h : m.find? id <;> simp [answers, h])

section Fields

variable {m : AnnotationMap} {elements : List Element} {key : String} {facts : MemberFacts}

lemma kind_foldl (m : AnnotationMap) (elements : List Element) (key : String) :
    ((elements.foldl mergeMember m).get? key).map MemberFacts.kind = kindOf? m elements key := by
  rw [get?_foldl_mergeMember, ← kind_startOf, Option.map_map]
  simp [Function.comp_def, foldl_extended]

lemma isAnnotated_iff (h : (elements.foldl mergeMember m).get? key = some facts) :
    facts.isAnnotated = true ↔ (∃ old, m.get? key = some old ∧ old.isAnnotated = true) ∨
      ∃ element ∈ elements, (idOf element).key = key ∧ isMarked element = true := by
  obtain ⟨start, hstart, _, hannotated, _⟩ := (get?_foldl_eq_some_iff m elements key facts).1 h
  rw [hannotated, Bool.or_eq_true, start_isAnnotated_iff hstart, any_membersOf_iff]

lemma get?_parameters (h : (elements.foldl mergeMember m).get? key = some facts) (name : String) :
    ∃ start, startOf m elements key = some start ∧ facts.parameters.get? name =
      if ∃ element ∈ elements, (idOf element).key = key ∧ name ∈ annotatedParameters element then
        some true
      else start.parameters.get? name := by
  obtain ⟨start, hstart, _, _, hparameters⟩ := (get?_foldl_eq_some_iff m elements key facts).1 h
  refine ⟨start, hstart, ?_⟩
  rw [hparameters, OrderedMap.get?_foldl_insert_const]
  simp only [mem_flatMap_membersOf_iff]

lemma annotatedParameter_iff (h : (elements.foldl mergeMember m).get? key = some facts)
    (name : String) :
    facts.parameters.get? name = some true ↔
      (∃ old, m.get? key = some old ∧ old.parameters.get? name = some true) ∨
      ∃ element ∈ elements, (idOf element).key = key ∧ name ∈ annotatedParameters element := by
  obtain ⟨start, hstart, hget⟩ := get?_parameters h name
  rw [hget, ← start_parameters_iff hstart]
  split_ifs with hmember
  · exact ⟨fun _ => .inr hmember, fun _ => rfl⟩
  · exact ⟨.inl, fun hor => hor.resolve_right hmember⟩

lemma plainParameter_iff (h : (elements.foldl mergeMember m).get? key = some facts)
    (name : String) :
    facts.parameters.get? name = some false ↔
      (∃ old, m.get? key = some old ∧ old.parameters.get? name = some false) ∧
      ¬ ∃ element ∈ elements, (idOf element).key = key ∧ name ∈ annotatedParameters element := by
  obtain ⟨start, hstart, hget⟩ := get?_parameters h name
  rw [hget, ← start_parameters_iff hstart]
  split_ifs with hmember
  · simp [hmember]
  · exact ⟨fun hfalse => ⟨hfalse, hmember⟩, And.left⟩

lemma keys_parameters (h : (elements.foldl mergeMember m).get? key = some facts) :
    let old := ((m.get? key).map (fun old => old.parameters.keys)).getD []
    facts.parameters.keys = old ++ (((membersOf key elements).flatMap
      annotatedParameters).filter (fun name => name ∉ old)).eraseDups := by
  obtain ⟨start, hstart, _, _, hparameters⟩ := (get?_foldl_eq_some_iff m elements key facts).1 h
  have hold : ((m.get? key).map (fun old => old.parameters.keys)).getD [] =
      start.parameters.keys := by
    rcases start_cases hstart with hget | ⟨hget, hkind⟩
    · rw [hget]; rfl
    · rw [hget, hkind]; rfl
  have hkeys := OrderedMap.keys_foldl_insert id (fun _ _ => true)
    ((membersOf key elements).flatMap annotatedParameters) start.parameters
  rw [List.map_id] at hkeys
  rw [hold, hparameters]
  exact hkeys

lemma kindOf?_eq_some (h : (elements.foldl mergeMember m).get? key = some facts) :
    kindOf? m elements key = some facts.kind := by
  rw [← kind_foldl, h]
  rfl

end Fields

/-- Member elements merge into what `Merged` says. -/
lemma merged_foldl (m : AnnotationMap) (elements : List Element) :
    Merged m elements (elements.foldl mergeMember m) where
  keys := OrderedMap.keys_foldl_insert (fun element => (idOf element).key)
    (fun m element => extended (factsFor m (idOf element)) element) elements m
  kind := kind_foldl m elements
  annotated _ _ h := isAnnotated_iff h
  annotatedParameter _ _ name h := annotatedParameter_iff h name
  plainParameter _ _ name h := plainParameter_iff h name
  parameters _ _ h := keys_parameters h
  answersValue id := by
    rw [answers_value_iff]
    constructor
    · rintro ⟨facts, hget, hkind, hannotated⟩
      exact ⟨hkind ▸ kindOf?_eq_some hget, (isAnnotated_iff hget).1 hannotated⟩
    · rintro ⟨hkind, hannotated⟩
      rw [← kind_foldl, Option.map_eq_some_iff] at hkind
      obtain ⟨facts, hget, hkind⟩ := hkind
      exact ⟨facts, hget, hkind, (isAnnotated_iff hget).2 hannotated⟩
  answersParameter id name := by
    rw [answers_parameter_iff]
    constructor
    · rintro ⟨facts, hget, hkind, hannotated⟩
      exact ⟨hkind ▸ kindOf?_eq_some hget, (annotatedParameter_iff hget name).1 hannotated⟩
    · rintro ⟨hkind, hannotated⟩
      rw [← kind_foldl, Option.map_eq_some_iff] at hkind
      obtain ⟨facts, hget, hkind⟩ := hkind
      exact ⟨facts, hget, hkind, (annotatedParameter_iff hget name).2 hannotated⟩

/-- Documents that can be read to their ends merge into a map as their member elements say. -/
theorem merged_mergeAll {m merged : AnnotationMap} {roots : List Element}
    (h : m.mergeAll roots = .ok merged) : Merged m (members roots) merged := by
  rw [mergeAll_eq_foldl h]
  exact merged_foldl m (members roots)

/-! ## An instance -/

/-- A member with elements inside it. -/
def memberNamed (name : String) (children : List Element) : Element :=
  ⟨"member", [("name", name)], children⟩

/-- A parameter with elements inside it. -/
def parameterNamed (name : String) (children : List Element) : Element :=
  ⟨"parameter", [("name", name)], children⟩

/-- An attribute of a member or a parameter. -/
def attributeOf (ctor : String) : Element :=
  ⟨"attribute", [("ctor", ctor)], []⟩

/-- Two documents and an element that is none. The members of the first one share a key, and one of
them holds an attribute too deep to count; the second one has a parameter that was known before. -/
def sampleRoots : List Element :=
  [⟨"assembly", [], [
      memberNamed "T:A" [memberNamed "T:A" [attributeOf notNullConstructor],
        parameterNamed "p" [attributeOf canBeNullConstructor, attributeOf notNullConstructor]],
      memberNamed "M:A" [attributeOf "M:Pure", parameterNamed "q" []]]⟩,
    ⟨"doc", [], [memberNamed "F:C" [attributeOf notNullConstructor]]⟩,
    ⟨"assembly", [], [
      memberNamed "P:B" [attributeOf canBeNullConstructor,
        parameterNamed "y" [attributeOf notNullConstructor]]]⟩]

/-- A map that knows one of the members of the documents. -/
def sampleMap : AnnotationMap :=
  .ofList [("B", ⟨"M", false, .ofList [("x", false), ("y", false)]⟩)]

theorem merged_mergeAll_sample : ∃ merged, sampleMap.mergeAll sampleRoots = .ok merged ∧
    Merged sampleMap (members sampleRoots) merged := by
  have hmerge : sampleMap.mergeAll sampleRoots = .ok (.ofList
      [("B", ⟨"M", true, .ofList [("x", false), ("y", true)]⟩),
        ("A", ⟨"T", false, .ofList [("p", true)]⟩)]) := by decide +kernel
  exact ⟨_, hmerge, merged_mergeAll hmerge⟩

end Nullability.AnnotationMap
