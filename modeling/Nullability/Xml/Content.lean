import Nullability.Xml.DocumentType
import Nullability.Xml.Element

/-!
# Content

From markup to elements. First references are replaced, so that tags have the attributes they are
declared to have; what an entity stands for must close every element that it opens. Then tags are
matched, and names are expanded by the namespaces in scope.
-/

namespace Nullability.Xml

/-- A part of the content after references were replaced. -/
inductive Tag where
  /-- Text; outside elements it must be blank. -/
  | text (isBlank : Bool)
  | opens (name : String) (attributes : List (String × String))
  | closes (name : String)
  deriving DecidableEq, Repr

/-! ## Replacing references -/

/-- Whether no name occurs twice. -/
def distinct : List String → Bool
  | [] => true
  | name :: rest => !rest.contains name && distinct rest

/-- The attributes of a tag with their values, and the defaults of those it lacks. -/
def tagAttributes? (type : DocumentType) (opened : List String) (allowance : Nat)
    (element : String) (attributes : List (String × List ValuePart)) :
    Option (List (String × String) × Nat) :=
  if !distinct (attributes.map Prod.fst) then none
  else
    let rules := type.rulesFor element
    let isTokens := fun (name : String) =>
      (rules.find? (fun rule => rule.name = name)).any AttributeRule.isTokens
    let defaults := rules.filterMap (fun rule =>
      if attributes.any (fun written => written.1 = rule.name) then none
      else rule.default.map (fun value => (rule.name, value)))
    let written : Option (List (String × String) × Nat) :=
      attributes.foldlM (fun (state : List (String × String) × Nat) entry =>
        (attributeValue? type.entities opened state.2 (isTokens entry.1) entry.2).map
          (fun found => ((entry.1, found.1) :: state.1, found.2))) ([], allowance)
    written.map (fun found => (found.1.reverse ++ defaults, found.2))

/-- Whether tags close what they open, starting inside `depth` elements of their own. -/
def balanced (depth : Nat) : List Tag → Bool
  | [] => depth = 0
  | .opens _ _ :: rest => balanced (depth + 1) rest
  | .closes _ :: rest => depth ≠ 0 && balanced (depth - 1) rest
  | .text _ :: rest => balanced depth rest

/-- The tags of some markup, newest first, added to those found so far, and the allowance that is
left. Entities in `opened` are being replaced; `depth` bounds the nesting. -/
def resolve? (type : DocumentType) :
    (depth : Nat) → (opened : List String) → List Tag × Nat → List Markup →
      Option (List Tag × Nat)
  | 0, _, _, _ => none
  | depth + 1, opened, state, markup =>
    markup.foldlM (fun (done, allowance) part =>
      match part with
      | .text isBlank => some (.text isBlank :: done, allowance)
      | .endTag name => some (.closes name :: done, allowance)
      | .startTag name attributes isEmpty =>
        (tagAttributes? type opened allowance name attributes).map (fun (attributes, left) =>
          let done := .opens name attributes :: done
          (if isEmpty then .closes name :: done else done, left))
      | .entity name =>
        if (predefined? name).isSome then some (.text false :: done, allowance)
        else
          match type.entities.bodies.get? name with
          | some (.internal text) =>
            if opened.contains name ∨ allowance < text.length then none
            else
              match content? false text with
              | none => none
              | some markup =>
                match resolve? type depth (name :: opened) ([], allowance - text.length) markup with
                | some (tags, left) =>
                  if balanced 0 tags.reverse then some (tags ++ .text false :: done, left) else none
                | none => none
          | _ => none) state

/-! ## Namespaces -/

/-- The namespaces in scope: prefixes with the addresses they stand for, innermost first. The empty
prefix is that of elements without one. -/
abbrev Scope := List (String × String)

/-- The address that the prefix `xml` always stands for. -/
def xmlAddress : String := "http://www.w3.org/XML/1998/namespace"

/-- The address of the declarations of namespaces, which no prefix may stand for. -/
def declarationAddress : String := "http://www.w3.org/2000/xmlns/"

/-- The namespaces in scope at the root. -/
def rootScope : Scope := [("xml", xmlAddress)]

/-- The address of a prefix, if it has one. -/
def Scope.address? (scope : Scope) (lead : String) : Option String :=
  match scope.find? (fun entry => entry.1 = lead) with
  | some (_, address) => if address.isEmpty then none else some address
  | none => none

/-- A name split at its colon: the prefix, empty if there is none, and the local part. -/
def splitName (name : String) : String × String :=
  let cs := name.toList
  match cs.dropWhile (fun c => c ≠ ':') with
  | ':' :: rest => (String.ofList (cs.takeWhile (fun c => c ≠ ':')), String.ofList rest)
  | _ => ("", name)

/-- The prefix that an attribute declares, if it declares one. -/
def declaredLead? (name : String) : Option String :=
  if name = "xmlns" then some ""
  else
    match splitName name with
    | ("xmlns", lead) => some lead
    | _ => none

/-- Whether a prefix may be declared to stand for an address. -/
def isLegalDeclaration (lead address : String) : Bool :=
  lead ≠ "xmlns" && (!address.isEmpty || lead.isEmpty) && !address.toList.contains '\x7d' &&
    decide (lead = "xml") == decide (address = xmlAddress) && address ≠ declarationAddress

/-- A name with the address of its namespace. -/
def expandedName (address name : String) : String :=
  "\x7b" ++ address ++ "\x7d" ++ name

/-- The name of an element by the namespaces in scope. -/
def Scope.elementName? (scope : Scope) (name : String) : Option String :=
  let (lead, rest) := splitName name
  match scope.address? lead with
  | some address => some (expandedName address rest)
  | none => if lead.isEmpty then some name else none

/-- The name of an attribute: only a prefix puts it into a namespace. -/
def Scope.attributeName? (scope : Scope) (name : String) : Option String :=
  let (lead, rest) := splitName name
  if lead.isEmpty then some name
  else (scope.address? lead).map (fun address => expandedName address rest)

/-- The scope inside a tag, and its attributes other than declarations under their full names. -/
def Scope.enter? (scope : Scope) (attributes : List (String × String)) :
    Option (Scope × List (String × String)) :=
  let declared := attributes.filterMap (fun (name, value) =>
    (declaredLead? name).map (fun lead => (lead, value)))
  if declared.all (fun (lead, address) => isLegalDeclaration lead address) then
    let scope : Scope := declared.reverse ++ scope
    let plain := attributes.filter (fun (name, _) => (declaredLead? name).isNone)
    let named := plain.mapM (fun (name, value) =>
      (scope.attributeName? name).map (fun name => (name, value)))
    named.bind (fun named =>
      if distinct (named.map Prod.fst) then some (scope, named) else none)
  else none

/-! ## Building elements -/

/-- An element whose end tag was not met yet. -/
structure OpenElement where
  /-- The name as written, which the end tag repeats. -/
  written : String
  tag : String
  attributes : List (String × String)
  scope : Scope
  /-- The elements inside it so far, newest first. -/
  children : List Element

/-- The elements that are open, innermost first, and the root once it is closed. -/
structure Tree where
  opened : List OpenElement
  root : Option Element

namespace Tree

/-- Closes the innermost element. -/
def closeElement (tree : Tree) : Tree :=
  match tree.opened with
  | [] => tree
  | inner :: rest =>
    let element : Element := ⟨inner.tag, inner.attributes, inner.children.reverse⟩
    match rest with
    | [] => ⟨[], some element⟩
    | outer :: rest => ⟨{ outer with children := element :: outer.children } :: rest, none⟩

/-- Adds a tag: after the root only blank text may follow. -/
def add? (tree : Tree) : Tag → Option Tree
  | .text isBlank => if isBlank ∨ !tree.opened.isEmpty then some tree else none
  | .opens name attributes =>
    if tree.root.isSome then none
    else
      let outer := (tree.opened.head?.map (·.scope)).getD rootScope
      match outer.enter? attributes with
      | none => none
      | some (scope, attributes) =>
        (scope.elementName? name).map (fun tag =>
          { tree with opened := ⟨name, tag, attributes, scope, []⟩ :: tree.opened })
  | .closes name =>
    match tree.opened with
    | inner :: _ => if inner.written = name then some tree.closeElement else none
    | [] => none

/-- The root element that tags make up. -/
def ofTags? (tags : List Tag) : Option Element :=
  match tags.foldlM add? (⟨[], none⟩ : Tree) with
  | some tree => if tree.opened.isEmpty then tree.root else none
  | none => none

end Tree

/-- The root element of a decoded document. -/
def Source.root? (source : Source) : Option Element :=
  match readProlog? source.latin source.standalone source.text with
  | none => none
  | some (type, body) =>
    match content? source.latin body with
    | none => none
    | some markup =>
      match resolve? type type.entities.depth [] ([], type.allowance) markup with
      | some (tags, _) => Tree.ofTags? tags.reverse
      | none => none

/-- The root element of a document. -/
def Element.ofBytes (bytes : List UInt8) : Except Refusal Element :=
  match Source.ofBytes bytes with
  | .error refusal => .error refusal
  | .ok source =>
    match source.root? with
    | some root => .ok root
    | none => .error .malformed

end Nullability.Xml
