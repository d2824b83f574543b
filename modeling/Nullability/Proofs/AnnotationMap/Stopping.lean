import Nullability.AnnotationMap.Load
import Nullability.Proofs.AnnotationMap.Meaning

/-!
# Where a document stops

Some elements of a document must have an attribute: members and parameters a name, and the
attributes of both a constructor. Merging stops at the first element in document order that lacks
the attribute it must have, and leaves what it would leave of the document cut off just before that
element (`AnnotationMap.stops_at_first_lacking`).

The place of an element is the list of the indices on the way to it, each counted among all elements
that lie in the same one. Then document order is the lexicographic order of places: an element comes
before those that lie in it.
-/

namespace Nullability
open Xml (Element)

/-- What is left of an element if its document is cut off just before a place inside it: of every
element that the place lies in, what comes before the place. -/
def Xml.Element.cutBefore : Element → List Nat → Element
  | element, [] => element
  | element, [i] => { element with children := element.children.take i }
  | element, i :: j :: place =>
    { element with children := element.children.take i ++
        ((element.children[i]?).map (fun child => child.cutBefore (j :: place))).toList }

/-- The attribute that an element must have, by the tags on the way to it. -/
def requiredAttribute? : List String → Option String
  | ["assembly", "member"] => some "name"
  | ["assembly", "member", "attribute"] => some "ctor"
  | ["assembly", "member", "parameter"] => some "name"
  | ["assembly", "member", "parameter", "attribute"] => some "ctor"
  | _ => none

/-- What an element itself lacks, below elements with some tags. -/
def lackOf (above : List String) (element : Element) : Option MissingAttribute :=
  match requiredAttribute? (above ++ [element.tag]) with
  | some name => if element.get? name = none then some ⟨element.tag, name⟩ else none
  | none => none

/-- What the element at a place inside an element lacks, below elements with some tags. -/
def lackingUnder (above : List String) (element : Element) : List Nat → Option MissingAttribute
  | [] => lackOf above element
  | i :: place =>
    match element.children[i]? with
    | some child => lackingUnder (above ++ [element.tag]) child place
    | none => none

/-- What the element at a place of a document lacks. -/
def lacking? (root : Element) (place : List Nat) : Option MissingAttribute :=
  lackingUnder [] root place

namespace AnnotationMap

/-! ## Readings that stop -/

/-- How far something is read that lacks attributes at some places: to its end if it lacks none, and
else as far as what is left of it before the first of these places. -/
inductive Stops (lacks : List Nat → Option MissingAttribute) (whole : Reading)
    (left : List Nat → Reading) : Prop where
  | never (hnone : ∀ place, lacks place = none) (hfault : whole.fault = none)
  | first (place : List Nat) (missing : MissingAttribute) (hlacks : lacks place = some missing)
    (hfirst : ∀ earlier < place, lacks earlier = none) (hfault : whole.fault = some missing)
    (hleft : left place = ⟨whole.declarations, none⟩)

/-- What is lacking at a place inside the elements of a list. -/
def lacksIn (lacks : Element → List Nat → Option MissingAttribute) (elements : List Element) :
    List Nat → Option MissingAttribute
  | [] => none
  | i :: place =>
    match elements[i]? with
    | some element => lacks element place
    | none => none

/-- What is left of an element before a place inside it, which is nothing before its own. -/
def leftOf (element : Element) : List Nat → List Element
  | [] => []
  | i :: place => [element.cutBefore (i :: place)]

/-- What is left of the elements of a list before a place inside them. -/
def leftIn : List Element → List Nat → List Element
  | _, [] => []
  | [], _ => []
  | element :: _, 0 :: place => leftOf element place
  | element :: rest, (i + 1) :: place => element :: leftIn rest (i :: place)

/-- The children of an element that is cut off are what is left of its children. -/
lemma children_cutBefore (element : Element) (i : Nat) (place : List Nat) :
    (element.cutBefore (i :: place)).children = leftIn element.children (i :: place) := by
  obtain ⟨tag, attributes, children⟩ := element
  cases place with
  | nil =>
    rw [Xml.Element.cutBefore]
    induction children generalizing i with
    | nil => simp [leftIn]
    | cons child rest ih =>
      cases i with
      | zero => rfl
      | succ i => exact congrArg (child :: ·) (ih i)
  | cons j place =>
    rw [Xml.Element.cutBefore]
    induction children generalizing i with
    | nil => simp [leftIn]
    | cons child rest ih =>
      cases i with
      | zero => rfl
      | succ i => exact congrArg (child :: ·) (ih i)

section Lists

variable {lacks : Element → List Nat → Option MissingAttribute} {read : Element → Reading}

lemma append_of_fault_eq_some {a b : Reading} {missing : MissingAttribute}
    (h : a.fault = some missing) : a ++ b = a := by
  change a.append b = a
  rw [Reading.append, h]

lemma append_of_fault_eq_none {a b : Reading} (h : a.fault = none) :
    a ++ b = ⟨a.declarations ++ b.declarations, b.fault⟩ := by
  change a.append b = _
  rw [Reading.append, h]

/-- Elements in a row stop where the first one does that stops at all. -/
lemma stops_all {elements : List Element}
    (h : ∀ element ∈ elements, Stops (lacks element) (read element)
      (fun place => .all ((leftOf element place).map read))) :
    Stops (lacksIn lacks elements) (.all (elements.map read))
      (fun place => .all ((leftIn elements place).map read)) := by
  induction elements with
  | nil =>
    refine .never ?_ rfl
    intro place
    cases place <;> rfl
  | cons element rest ih =>
    obtain ⟨helement, hrest⟩ := List.forall_mem_cons.1 h
    change Stops _ (read element ++ Reading.all (rest.map read)) _
    cases helement with
    | never hnone hfault =>
      have hwhole := append_of_fault_eq_none (b := Reading.all (rest.map read)) hfault
      cases ih hrest with
      | never hnone' hfault' =>
        refine .never ?_ ?_
        · rintro (_ | ⟨_ | i, place⟩)
          · rfl
          · exact hnone place
          · exact hnone' (i :: place)
        · rw [hwhole]
          exact hfault'
      | first place missing hlacks hfirst hfault' hleft =>
        cases place with
        | nil => cases hlacks
        | cons i place =>
          refine .first ((i + 1) :: place) missing hlacks ?_ ?_ ?_
          · rintro (_ | ⟨_ | j, earlier⟩) hearlier
            · rfl
            · exact hnone earlier
            · refine hfirst (j :: earlier) ?_
              rw [List.cons_lt_cons_iff] at hearlier ⊢
              exact hearlier.imp Nat.lt_of_succ_lt_succ (And.imp_left Nat.succ.inj)
          · rw [hwhole]
            exact hfault'
          · change read element ++ Reading.all ((leftIn rest (i :: place)).map read) = _
            rw [hleft, hwhole, append_of_fault_eq_none hfault]
    | first place missing hlacks hfirst hfault hleft =>
      have hwhole := append_of_fault_eq_some (b := Reading.all (rest.map read)) hfault
      refine .first (0 :: place) missing hlacks ?_ ?_ ?_
      · rintro (_ | ⟨j, earlier⟩) hearlier
        · rfl
        · rw [List.cons_lt_cons_iff] at hearlier
          obtain hlt | ⟨rfl, hlt⟩ := hearlier
          · exact absurd hlt (Nat.not_lt_zero j)
          · exact hfirst earlier hlt
      · rw [hwhole]
        exact hfault
      · rw [hwhole]
        exact hleft

end Lists

/-- An element that lacks nothing itself stops where its children do. -/
lemma Stops.inside {lacks : Element → List Nat → Option MissingAttribute}
    {read : Element → Reading} {element : Element} (own : Reading)
    {lacking : List Nat → Option MissingAttribute} {whole : Reading} {left : List Nat → Reading}
    (h : Stops (lacksIn lacks element.children) (.all (element.children.map read))
      (fun place => .all ((leftIn element.children place).map read)))
    (hnone : lacking [] = none)
    (hinside : ∀ i place, lacking (i :: place) = lacksIn lacks element.children (i :: place))
    (hown : own.fault = none) (hwhole : whole = own ++ .all (element.children.map read))
    (hleft : ∀ i place,
      left (i :: place) = own ++ .all ((leftIn element.children (i :: place)).map read)) :
    Stops lacking whole left := by
  rw [append_of_fault_eq_none hown] at hwhole
  cases h with
  | never hnowhere hfault =>
    refine .never ?_ (by rw [hwhole]; exact hfault)
    rintro (_ | ⟨i, place⟩)
    · exact hnone
    · rw [hinside]
      exact hnowhere (i :: place)
  | first place missing hlacks hfirst hfault hread =>
    cases place with
    | nil => cases hlacks
    | cons i place =>
      refine .first (i :: place) missing ((hinside i place).trans hlacks) ?_ ?_ ?_
      · rintro (_ | ⟨j, earlier⟩) hearlier
        · exact hnone
        · rw [hinside]
          exact hfirst (j :: earlier) hearlier
      · rw [hwhole]
        exact hfault
      · rw [hleft, hread, hwhole, append_of_fault_eq_none hown]

/-! ## Elements that may lack nothing -/

/-- Whether nothing is required below elements with some tags. -/
def IsFree (above : List String) : Prop :=
  ∀ tag rest, requiredAttribute? (above ++ tag :: rest) = none

/-- Off the ways to members, to their attributes and parameters and to these parameters' attributes,
nothing is required. -/
lemma requiredAttribute?_eq_none {tags : List String}
    (h : tags ∉ [["assembly", "member"], ["assembly", "member", "attribute"],
      ["assembly", "member", "parameter"], ["assembly", "member", "parameter", "attribute"]]) :
    requiredAttribute? tags = none := by
  simp only [List.mem_cons, List.not_mem_nil, or_false, not_or] at h
  obtain ⟨hmember, hattribute, hparameter, hinner⟩ := h
  rw [requiredAttribute?]
  all_goals assumption

lemma IsFree.lackingUnder_eq_none {above : List String} (h : IsFree above) (element : Element)
    (place : List Nat) : lackingUnder above element place = none := by
  induction place generalizing above element with
  | nil =>
    rw [lackingUnder, lackOf, h element.tag []]
  | cons i place ih =>
    rw [lackingUnder]
    cases element.children[i]? with
    | none => rfl
    | some child =>
      apply ih
      intro tag rest
      rw [List.append_assoc]
      exact h element.tag (tag :: rest)

lemma IsFree.lackingUnder_cons {above : List String} {element : Element}
    (h : IsFree (above ++ [element.tag])) (i : Nat) (place : List Nat) :
    lackingUnder above element (i :: place) = none := by
  rw [lackingUnder]
  cases element.children[i]? with
  | none => rfl
  | some child => exact h.lackingUnder_eq_none child place

lemma isFree_of_ne_assembly {tag : String} (h : tag ≠ "assembly") : IsFree [tag] := by
  intro next rest
  rw [List.singleton_append, requiredAttribute?_eq_none]
  simp [h]

lemma isFree_of_ne_member {tag : String} (h : tag ≠ "member") : IsFree ["assembly", tag] := by
  intro next rest
  rw [List.cons_append, List.singleton_append, requiredAttribute?_eq_none]
  simp [h]

lemma isFree_of_ne_parameter {tag : String} (h : tag ≠ "parameter") :
    IsFree ["assembly", "member", tag] := by
  intro next rest
  rw [List.cons_append, List.cons_append, List.singleton_append, requiredAttribute?_eq_none]
  simp [h]

lemma isFree_inside_parameter (tag : String) :
    IsFree ["assembly", "member", "parameter", tag] := by
  intro next rest
  rw [List.cons_append, List.cons_append, List.cons_append, List.singleton_append,
    requiredAttribute?_eq_none]
  simp

/-! ## Elements of a document -/

lemma append_nothing (reading : Reading) : reading ++ .nothing = reading := by
  cases hfault : reading.fault with
  | some missing => exact append_of_fault_eq_some hfault
  | none =>
    rw [append_of_fault_eq_none hfault, Reading.nothing, List.append_nil, ← hfault]

lemma nothing_append (reading : Reading) : .nothing ++ reading = reading := rfl

/-- Elements with another tag say nothing. -/
lemma all_childrenTagged (element : Element) (tag : String) (read : Element → Reading) :
    Reading.all ((element.childrenTagged tag).map read) =
      .all (element.children.map (fun child =>
        if child.tag = tag then read child else .nothing)) := by
  rw [Xml.Element.childrenTagged]
  induction element.children with
  | nil => rfl
  | cons child rest ih =>
    rw [List.map_cons]
    change _ = (if child.tag = tag then read child else .nothing) ++ _
    by_cases htag : child.tag = tag
    · rw [List.filter_cons_of_pos (by simpa using htag), List.map_cons, if_pos htag]
      exact congrArg (read child ++ ·) ih
    · rw [List.filter_cons_of_neg (by simpa using htag), if_neg htag, nothing_append]
      exact ih

lemma tag_cutBefore (element : Element) (place : List Nat) :
    (element.cutBefore place).tag = element.tag := by
  rcases place with _ | ⟨i, _ | ⟨j, place⟩⟩ <;> rfl

lemma get?_cutBefore (element : Element) (place : List Nat) (name : String) :
    (element.cutBefore place).get? name = element.get? name := by
  rcases place with _ | ⟨i, _ | ⟨j, place⟩⟩ <;> rfl

/-- What is left of an element before a place inside it is read as the element that is cut off. -/
lemma all_leftOf (element : Element) (read : Element → Reading) (i : Nat) (place : List Nat) :
    Reading.all ((leftOf element (i :: place)).map read) = read (element.cutBefore (i :: place)) :=
  append_nothing _

section Levels

variable {above : List String} {element : Element} {left : List Nat → Reading}

/-- An element that lacks something itself is not read at all. -/
lemma Stops.here {name : String}
    (hrequired : requiredAttribute? (above ++ [element.tag]) = some name)
    (hget : element.get? name = none) (hleft : left [] = .nothing) :
    Stops (lackingUnder above element) (.lacks element.tag name) left := by
  refine .first [] ⟨element.tag, name⟩ ?_ ?_ rfl hleft
  · rw [lackingUnder, lackOf, hrequired]
    exact if_pos hget
  · intro earlier hearlier
    exact absurd hearlier (List.not_lt_nil earlier)

lemma lackingUnder_nil_of_get? {name value : String}
    (hrequired : requiredAttribute? (above ++ [element.tag]) = some name)
    (hget : element.get? name = some value) : lackingUnder above element [] = none := by
  rw [lackingUnder, lackOf, hrequired]
  exact if_neg (by rw [hget]; exact Option.some_ne_none value)

lemma Stops.nowhere {reading : Reading} (hown : lackingUnder above element [] = none)
    (hfree : IsFree (above ++ [element.tag])) (hfault : reading.fault = none) :
    Stops (lackingUnder above element) reading left := by
  refine .never ?_ hfault
  rintro (_ | ⟨i, place⟩)
  · exact hown
  · exact hfree.lackingUnder_cons i place

lemma stops_readAttribute (fact : Declaration)
    (hrequired : requiredAttribute? (above ++ [element.tag]) = some "ctor")
    (hfree : IsFree (above ++ [element.tag])) (hleft : left [] = .nothing) :
    Stops (lackingUnder above element) (readAttribute fact element) left := by
  cases hctor : element.get? "ctor" with
  | none =>
    rw [readAttribute, hctor]
    exact .here hrequired hctor hleft
  | some name =>
    refine .nowhere (lackingUnder_nil_of_get? hrequired hctor) hfree ?_
    rw [readAttribute, hctor]
    dsimp only
    split_ifs <;> rfl

lemma lackingUnder_cons (above : List String) (element : Element) (i : Nat) (place : List Nat) :
    lackingUnder above element (i :: place) =
      lacksIn (lackingUnder (above ++ [element.tag])) element.children (i :: place) := rfl

/-- The elements directly inside a parameter stop where an attribute lacks its constructor. -/
lemma stops_parameterChild (key name : String) (element : Element) :
    let read := fun (child : Element) =>
      if child.tag = "attribute" then readAttribute (.parameter key name) child else .nothing
    Stops (lackingUnder ["assembly", "member", "parameter"] element) (read element)
      (fun place => .all ((leftOf element place).map read)) := by
  intro read
  change Stops _ (if element.tag = "attribute" then _ else _) _
  split_ifs with htag
  · refine stops_readAttribute _ ?_ (isFree_inside_parameter _) rfl
    rw [htag]
    rfl
  · refine .nowhere ?_ (isFree_inside_parameter _) rfl
    rw [lackingUnder, lackOf, List.cons_append, List.cons_append, List.cons_append, List.nil_append,
      requiredAttribute?_eq_none]
    simp [htag]

lemma stops_readParameter (key : String) (htag : element.tag = "parameter")
    (hleft : left [] = .nothing)
    (hcut : ∀ i place, left (i :: place) = readParameter key (element.cutBefore (i :: place))) :
    Stops (lackingUnder ["assembly", "member"] element) (readParameter key element) left := by
  have hrequired : requiredAttribute? (["assembly", "member"] ++ [element.tag]) = some "name" := by
    rw [htag]
    rfl
  cases hname : element.get? "name" with
  | none =>
    rw [readParameter, hname]
    exact .here hrequired hname hleft
  | some name =>
    have hchildren := stops_all (fun child (_ : child ∈ element.children) =>
      stops_parameterChild key name child)
    refine hchildren.inside .nothing (lackingUnder_nil_of_get? hrequired hname) ?_ rfl ?_ ?_
    · intro i place
      rw [lackingUnder_cons, htag]
      rfl
    · simp only [readParameter, hname, nothing_append]
      exact all_childrenTagged element "attribute" _
    · intro i place
      simp only [hcut, readParameter, get?_cutBefore, hname, nothing_append]
      rw [all_childrenTagged, children_cutBefore]

/-- What is directly inside a member stops where it lacks its attribute, or where an attribute
inside it does. -/
lemma stops_readChild (key : String) (element : Element) :
    Stops (lackingUnder ["assembly", "member"] element) (readChild key element)
      (fun place => .all ((leftOf element place).map (readChild key))) := by
  by_cases hattribute : element.tag = "attribute"
  · rw [readChild, if_pos hattribute]
    refine stops_readAttribute _ (by rw [hattribute]; rfl) (isFree_of_ne_parameter ?_) rfl
    rw [hattribute]
    decide
  · by_cases hparameter : element.tag = "parameter"
    · have hread (cut : Element) (htag : cut.tag = element.tag) :
          readChild key cut = readParameter key cut := by
        rw [readChild, htag, if_neg hattribute, if_pos hparameter]
      rw [hread element rfl]
      refine stops_readParameter key hparameter rfl ?_
      intro i place
      rw [all_leftOf, hread _ (tag_cutBefore element _)]
    · rw [readChild, if_neg hattribute, if_neg hparameter]
      refine .nowhere ?_ (isFree_of_ne_parameter hparameter) rfl
      rw [lackingUnder, lackOf, List.cons_append, List.cons_append, List.nil_append,
        requiredAttribute?_eq_none]
      simp [hattribute, hparameter]

lemma stops_readMember (htag : element.tag = "member") (hleft : left [] = .nothing)
    (hcut : ∀ i place, left (i :: place) = readMember (element.cutBefore (i :: place))) :
    Stops (lackingUnder ["assembly"] element) (readMember element) left := by
  have hrequired : requiredAttribute? (["assembly"] ++ [element.tag]) = some "name" := by
    rw [htag]
    rfl
  cases hname : element.get? "name" with
  | none =>
    rw [readMember, hname]
    exact .here hrequired hname hleft
  | some name =>
    have hchildren := stops_all (fun child (_ : child ∈ element.children) =>
      stops_readChild (MemberId.ofMemberName name).key child)
    refine hchildren.inside (.declares (.member (.ofMemberName name)))
      (lackingUnder_nil_of_get? hrequired hname) ?_ rfl ?_ ?_
    · intro i place
      rw [lackingUnder_cons, htag]
      rfl
    · simp only [readMember, hname]
    · intro i place
      simp only [hcut, readMember, get?_cutBefore, hname, children_cutBefore]

/-- What is directly inside a document stops where a member does. -/
lemma stops_documentChild (element : Element) :
    let read := fun (child : Element) => if child.tag = "member" then readMember child else .nothing
    Stops (lackingUnder ["assembly"] element) (read element)
      (fun place => .all ((leftOf element place).map read)) := by
  intro read
  change Stops _ (if element.tag = "member" then _ else _) _
  split_ifs with htag
  · refine stops_readMember htag rfl ?_
    intro i place
    rw [all_leftOf]
    change (if _ then _ else _) = _
    rw [tag_cutBefore, if_pos htag]
  · refine .nowhere ?_ (isFree_of_ne_member htag) rfl
    rw [lackingUnder, lackOf, List.singleton_append, requiredAttribute?_eq_none]
    simp [htag]

/-- A document stops at the first place where something is lacking. -/
lemma stops_readDocument (root : Element) :
    Stops (lacking? root) (readDocument root)
      (fun place => readDocument (root.cutBefore place)) := by
  have hnone : lacking? root [] = none := by
    rw [lacking?, lackingUnder, lackOf, List.nil_append, requiredAttribute?_eq_none]
    simp
  by_cases htag : root.tag = "assembly"
  · have hchildren := stops_all (fun child (_ : child ∈ root.children) =>
      stops_documentChild child)
    refine hchildren.inside .nothing hnone ?_ rfl ?_ ?_
    · intro i place
      rw [lacking?, lackingUnder_cons, htag]
      rfl
    · rw [readDocument, if_pos htag, all_childrenTagged, nothing_append]
    · intro i place
      rw [readDocument, tag_cutBefore, if_pos htag, all_childrenTagged, children_cutBefore,
        nothing_append]
  · rw [readDocument, if_neg htag]
    exact .nowhere hnone (isFree_of_ne_assembly htag) rfl

end Levels

/-! ## Documents -/

/-- When and where the merging of a document into a map stops. -/
structure StopsAtFirst (m : AnnotationMap) (root : Element) : Prop where
  /-- It stops if something is lacking anywhere. -/
  fault_iff :
    (m.mergeDocument root).2.isSome = true ↔ ∃ place, (lacking? root place).isSome = true
  /-- It stops at the first such place in document order, and leaves what it leaves of the document
  cut off just before that place, which it reads to its end. -/
  first : ∀ missing, (m.mergeDocument root).2 = some missing →
    ∃ place, lacking? root place = some missing ∧
      (∀ earlier < place, lacking? root earlier = none) ∧
      m.mergeDocument (root.cutBefore place) = ((m.mergeDocument root).1, none)
  /-- A document with another root says nothing. -/
  other_root : root.tag ≠ "assembly" → m.mergeDocument root = (m, none)

lemma stopsAtFirst (m : AnnotationMap) (root : Element) : m.StopsAtFirst root := by
  refine ⟨?_, ?_, ?_⟩
  · rw [mergeDocument]
    cases stops_readDocument root with
    | never hnone hfault => simp [hnone, hfault]
    | first place missing hlacks hfirst hfault hleft =>
      simp only [hfault, Option.isSome_some, true_iff]
      exact ⟨place, by rw [hlacks]; rfl⟩
  · intro missing hmissing
    rw [mergeDocument] at hmissing ⊢
    cases stops_readDocument root with
    | never hnone hfault =>
      rw [hfault] at hmissing
      cases hmissing
    | first place found hlacks hfirst hfault hleft =>
      obtain rfl := Option.some.inj (hfault.symm.trans hmissing)
      refine ⟨place, hlacks, hfirst, ?_⟩
      rw [mergeDocument, hleft]
  · intro htag
    rw [mergeDocument, readDocument, if_neg htag]
    rfl

/-- A document stops at the first place where an element lacks the attribute it must have, and
leaves what it leaves of the document cut off there; one that is not well-formed leaves the map as
it is. -/
theorem stops_at_first_lacking (m : AnnotationMap) (source : String) :
    (∀ root, m.StopsAtFirst root) ∧
      ∀ bytes, m.loadDocument source bytes =
        match Xml.Element.ofBytes bytes with
        | .error refusal => (m, some (refused source refusal))
        | .ok root => ((m.mergeDocument root).1, (m.mergeDocument root).2.map (fun missing =>
            .fault (.attributeMissing source missing.element missing.name))) := by
  refine ⟨m.stopsAtFirst, ?_⟩
  intro bytes
  unfold loadDocument
  cases Xml.Element.ofBytes bytes with
  | error refusal => rfl
  | ok root => rfl

/-- The first element that lacks its attribute is the second member, whatever is wrong inside it. -/
example :
    let root : Element := ⟨"assembly", [], [memberNamed "T:A" [],
      ⟨"member", [], [memberNamed "T:B" [], ⟨"attribute", [], []⟩]⟩]⟩
    lacking? root [1] = some ⟨"member", "name"⟩ ∧
      lacking? root [1, 1] = some ⟨"attribute", "ctor"⟩ ∧
      mergeDocument .empty root = (.ofList [("A", .ofKind "T")], some ⟨"member", "name"⟩) := by
  decide +kernel

end AnnotationMap

end Nullability
