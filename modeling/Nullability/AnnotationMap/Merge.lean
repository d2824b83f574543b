import Nullability.AnnotationMap
import Nullability.Xml.Element

/-!
# Merging documents

A document declares facts about members, one after the other. Reading it gives these declarations
up to the first element that lacks an attribute it must have; merging applies them to a map. So
what a document does to a map is a fold over its declarations, whether or not it is read to the end.
-/

namespace Nullability

/-- One fact that a document declares. -/
inductive Declaration where
  /-- The member occurs. -/
  | member (id : MemberId)
  /-- The value of the member with a key is annotated. -/
  | annotated (key : String)
  /-- A parameter of the member with a key is annotated. -/
  | parameter (key name : String)
  deriving DecidableEq, Repr

/-- An attribute that an element lacks. -/
structure MissingAttribute where
  element : String
  name : String
  deriving DecidableEq, Repr

/-- What reading a document, or a part of it, gives: declarations up to the fault, if any. -/
structure Reading where
  declarations : List Declaration
  fault : Option MissingAttribute
  deriving DecidableEq, Repr

namespace Reading

/-- A part without declarations. -/
def nothing : Reading := ⟨[], none⟩

/-- A part with one declaration. -/
def declares (d : Declaration) : Reading := ⟨[d], none⟩

/-- A part that cannot be read. -/
def lacks (element name : String) : Reading := ⟨[], some ⟨element, name⟩⟩

/-- Two parts in order: the second is read only if the first is read to its end. -/
def append (a b : Reading) : Reading :=
  match a.fault with
  | some _ => a
  | none => ⟨a.declarations ++ b.declarations, b.fault⟩

instance : Append Reading := ⟨append⟩

/-- Parts in order, up to the first fault. -/
def all (parts : List Reading) : Reading :=
  parts.foldr (· ++ ·) nothing

end Reading

namespace AnnotationMap

/-- The constructor of the attribute that excludes null. -/
def notNullConstructor : String := "M:JetBrains.Annotations.NotNullAttribute.#ctor"

/-- The constructor of the attribute that allows null. -/
def canBeNullConstructor : String := "M:JetBrains.Annotations.CanBeNullAttribute.#ctor"

/-- Whether an attribute with this constructor says something about nullability. -/
def isNullabilityConstructor (name : String) : Bool :=
  name = notNullConstructor || name = canBeNullConstructor

/-- What an attribute element declares: the given fact, if its constructor is about nullability. -/
def readAttribute (fact : Declaration) (element : Xml.Element) : Reading :=
  match element.get? "ctor" with
  | none => .lacks element.tag "ctor"
  | some name => if isNullabilityConstructor name then .declares fact else .nothing

/-- What a parameter element of a member declares. -/
def readParameter (key : String) (element : Xml.Element) : Reading :=
  match element.get? "name" with
  | none => .lacks element.tag "name"
  | some name =>
    .all ((element.childrenTagged "attribute").map (readAttribute (.parameter key name)))

/-- What an element directly inside a member declares. -/
def readChild (key : String) (element : Xml.Element) : Reading :=
  if element.tag = "attribute" then readAttribute (.annotated key) element
  else if element.tag = "parameter" then readParameter key element
  else .nothing

/-- What a member element declares. -/
def readMember (element : Xml.Element) : Reading :=
  match element.get? "name" with
  | none => .lacks element.tag "name"
  | some name =>
    let id := MemberId.ofMemberName name
    .declares (.member id) ++ .all (element.children.map (readChild id.key))

/-- What a document declares: only an assembly has members. -/
def readDocument (root : Xml.Element) : Reading :=
  if root.tag = "assembly" then .all ((root.childrenTagged "member").map readMember)
  else .nothing

/-- Changes the facts under a key that has an entry. -/
def update (m : AnnotationMap) (key : String) (f : MemberFacts → MemberFacts) : AnnotationMap :=
  match m.get? key with
  | some facts => m.insert key (f facts)
  | none => m

/-- Adds one declared fact. -/
def declare (m : AnnotationMap) : Declaration → AnnotationMap
  | .member id => m.getOrAdd id
  | .annotated key => m.update key (fun facts => { facts with isAnnotated := true })
  | .parameter key name =>
    m.update key (fun facts => { facts with parameters := facts.parameters.insert name true })

/-- Adds declared facts in order. -/
def declareAll (m : AnnotationMap) (declarations : List Declaration) : AnnotationMap :=
  declarations.foldl declare m

/-- Adds what a document declares; the map keeps what came before a fault. -/
def mergeDocument (m : AnnotationMap) (root : Xml.Element) :
    AnnotationMap × Option MissingAttribute :=
  let reading := readDocument root
  (m.declareAll reading.declarations, reading.fault)

end AnnotationMap

end Nullability
