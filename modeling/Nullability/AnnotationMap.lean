import Nullability.OrderedMap
import Nullability.Symbol

/-!
# Annotation maps

What is known about the nullability of members: per key the kind of member it stands for, whether
its value is annotated, and which of its parameters are. Keys of different kinds share one key
space; an entry answers only for its own kind.
-/

namespace Nullability

/-- What is known about one member. -/
structure MemberFacts where
  kind : String
  /-- Whether the member's own value is annotated. -/
  isAnnotated : Bool
  /-- The parameters that occurred, and whether each is annotated. -/
  parameters : OrderedMap String Bool
  deriving DecidableEq, Inhabited

namespace MemberFacts

/-- A member of which nothing is known yet. -/
def ofKind (kind : String) : MemberFacts :=
  ⟨kind, false, OrderedMap.empty⟩

/-- Whether nothing at all is known. -/
def isEmpty (facts : MemberFacts) : Bool :=
  !facts.isAnnotated && facts.parameters.isEmpty

/-- Whether a parameter is annotated. -/
def hasParameter (facts : MemberFacts) (name : String) : Bool :=
  (facts.parameters.get? name).getD false

end MemberFacts

/-- The facts about every member, by key, in the order in which the keys came. -/
abbrev AnnotationMap := OrderedMap String MemberFacts

/-- The part of a member that a question is about. -/
inductive Aspect where
  /-- The member's own value: what a field holds or a method returns. -/
  | value
  /-- The parameter with a name, if the name is known. -/
  | parameter (name : Option String)
  /-- The items of the member's value, if that is a collection; documents cannot describe them. -/
  | item
  deriving DecidableEq, Repr

namespace AnnotationMap

/-- The facts under a key, which are empty and of the given kind if the key is new. -/
def factsFor (m : AnnotationMap) (id : MemberId) : MemberFacts :=
  (m.get? id.key).getD (MemberFacts.ofKind id.kind)

/-- Makes sure that a key has an entry; an entry that is there keeps its kind. -/
def getOrAdd (m : AnnotationMap) (id : MemberId) : AnnotationMap :=
  m.insert id.key (m.factsFor id)

/-- The facts of a member, if the entry of its key is of the same kind. -/
def find? (m : AnnotationMap) (id : MemberId) : Option MemberFacts :=
  (m.get? id.key).filter (fun facts => facts.kind = id.kind)

/-- Whether an aspect of a member is annotated. -/
def answers (m : AnnotationMap) (id : MemberId) : Aspect → Bool
  | .item => false
  | .value =>
    match m.find? id with
    | some facts => facts.isAnnotated
    | none => false
  | .parameter name =>
    match m.find? id, name with
    | some facts, some name => facts.hasParameter name
    | _, _ => false

/-- The aspect of its member that a symbol is about. -/
def aspectOf (symbol : Symbol) (appliesToItem : Bool) : Aspect :=
  if appliesToItem then .item
  else if symbol.isParameter then .parameter (some symbol.name)
  else .value

/-- Whether a symbol is annotated: its member must have a documentation id with a kind. -/
def answersSymbol (m : AnnotationMap) (symbol : Symbol) (appliesToItem : Bool) : Bool :=
  match symbol.member? with
  | some id => m.answers id (aspectOf symbol appliesToItem)
  | none => false

/-- The map without entries of which nothing is known. -/
def compact (m : AnnotationMap) : AnnotationMap :=
  m.filter (fun _ facts => !facts.isEmpty)

/-- How many entries compaction drops. -/
def emptyCount (m : AnnotationMap) : Nat :=
  m.entries.countP (fun entry => entry.2.isEmpty)

end AnnotationMap

end Nullability
