import Nullability.OrderedMap
import Nullability.Xml.Markup

/-!
# Entities

The entities that a document type declares, and how references to them are replaced in attribute
values. A reference inside its own replacement is refused, and so is a document whose references
grow beyond a hundred times its size once that is more than eight million characters; what is left
of that allowance is passed along as a number.
-/

namespace Nullability.Xml

/-- What an entity stands for. -/
inductive EntityBody where
  /-- Text of the document itself. -/
  | internal (text : List Char)
  /-- Something outside the document, which is never read. -/
  | external
  deriving DecidableEq, Repr

/-- The entities of a document, and what is said about those that are not declared. -/
structure Entities where
  /-- Entities by name; the first declaration of a name counts. -/
  bodies : OrderedMap String EntityBody
  /-- Whether declarations outside the document may exist: then a reference to an undeclared entity
  in an attribute value stands for nothing. -/
  mayBeElsewhere : Bool
  deriving Inhabited

namespace Entities

/-- No entities. -/
def none : Entities := ⟨OrderedMap.empty, false⟩

/-- How deep references can nest, since no entity is replaced inside itself. -/
def depth (entities : Entities) : Nat := entities.bodies.size + 1

end Entities

/-- How many characters references may add to a document of a given size. -/
def expansionAllowance (size : Nat) : Nat :=
  max 8388608 (100 * size) - size

/-- The characters of an attribute value, newest first, added to those found so far, and the
allowance that is left. Entities in `opened` are being replaced; `depth` bounds the nesting. -/
def expandValue? (entities : Entities) :
    (depth : Nat) → (opened : List String) → List Char × Nat → List ValuePart →
      Option (List Char × Nat)
  | 0, _, _, _ => none
  | depth + 1, opened, state, parts =>
    parts.foldlM (fun (done, allowance) part =>
      match part with
      | .written c => some ((if isBlank c then ' ' else c) :: done, allowance)
      | .numbered c => some (c :: done, allowance)
      | .entity name =>
        match predefined? name with
        | some c => some (c :: done, allowance)
        | none =>
          match entities.bodies.get? name with
          | none => if entities.mayBeElsewhere then some (done, allowance) else none
          | some .external => none
          | some (.internal text) =>
            if opened.contains name ∨ allowance < text.length then none
            else
              match valueParts? false none (text.length + 1) [] text with
              | some (parts, _) =>
                expandValue? entities depth (name :: opened) (done, allowance - text.length) parts
              | none => none) state

/-- Blanks of a value that consists of tokens: one space between tokens, none at the ends. -/
def collapseSpaces (cs : List Char) : List Char :=
  let step := fun (done : List Char) (c : Char) =>
    if c = ' ' ∧ (done.isEmpty ∨ done.head? = some ' ') then done else c :: done
  match cs.foldl step [] with
  | ' ' :: done => done.reverse
  | done => done.reverse

/-- The value of an attribute: `isTokens` tells whether it is declared to consist of tokens. -/
def attributeValue? (entities : Entities) (opened : List String) (allowance : Nat)
    (isTokens : Bool) (parts : List ValuePart) : Option (String × Nat) :=
  (expandValue? entities entities.depth opened ([], allowance) parts).map
    (fun (done, left) =>
      let cs := done.reverse
      (String.ofList (if isTokens then collapseSpaces cs else cs), left))

end Nullability.Xml
