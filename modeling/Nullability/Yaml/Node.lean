import Nullability.Yaml.Token.Lexer

/-!
# Nodes of a YAML document

A document is made of nodes: scalars, sequences of nodes and mappings of pairs of nodes, each with a
tag. Nodes are known by their numbers, in the order in which they start. A reference gives the number
of the node that was named before, also from inside that node itself, so that a collection may
contain itself. Plain scalars are left for their tags to be found by their texts.

The grammar is followed token by token. Each function reads what its name says from the tokens that
are left; `fuel` bounds how often they call each other.
-/

namespace Nullability.Yaml

/-- What a tag says about its node. -/
inductive Tag where
  /-- There is no tag, and the text of a plain scalar decides. -/
  | unstated
  | null
  | bool
  | int
  | float
  | binary
  | moment
  | text
  | sequence
  | mapping
  | set
  /-- A sequence of mappings with one pair each. -/
  | pairs
  /-- The key whose value is merged into the mapping. -/
  | merge
  /-- The key whose value stands for the mapping. -/
  | default
  | unknown
  deriving DecidableEq, Repr, Inhabited

/-- What the names of the common tags start with. -/
def commonTagStart : String := "tag:yaml.org,2002:"

/-- The tag with a full name. -/
def Tag.ofName (name : String) : Tag :=
  let known : List (String × Tag) :=
    [("null", .null), ("bool", .bool), ("int", .int), ("float", .float), ("binary", .binary),
      ("timestamp", .moment), ("str", .text), ("seq", .sequence), ("map", .mapping),
      ("set", .set), ("omap", .pairs), ("pairs", .pairs), ("merge", .merge), ("value", .default)]
  match known.find? (fun entry => commonTagStart ++ entry.1 = name) with
  | some entry => entry.2
  | none => .unknown

/-- A node of a document; the nodes in it are given by their numbers. -/
inductive Node where
  | scalar (tag : Tag) (text : String)
  | sequence (tag : Tag) (items : List Nat)
  | mapping (tag : Tag) (pairs : List (Nat × Nat))
  deriving DecidableEq, Repr, Inhabited

namespace Node

/-- What is left to read, and what is known. -/
structure Progress where
  tokens : List Token
  /-- The nodes up to here; a collection is empty until it is read to its end. -/
  nodes : List Node
  anchors : List (String × Nat)
  /-- Why there are no more tokens. -/
  stop : Refusal

/-- A step of reading nodes. -/
abbrev Reading (α : Type) : Type := StateT Progress (Except Refusal) α

/-- Refuses the document. -/
def refuse {α : Type} (refusal : Refusal) : Reading α :=
  fun _ => .error refusal

/-- The next token, which is left where it is. -/
def peek : Reading Token :=
  fun progress =>
    match progress.tokens with
    | token :: _ => .ok (token, progress)
    | [] => .error progress.stop

/-- Passes over the next token. -/
def advance : Reading Unit :=
  fun progress => .ok ((), { progress with tokens := progress.tokens.tail })

/-- Passes over the next token if it is the given one, and tells whether it was. -/
def accept (token : Token) : Reading Bool := do
  if (← peek) = token then
    advance
    return true
  else return false

/-- Passes over the next token, which must be the given one. -/
def expect (token : Token) : Reading Unit := do
  if !(← accept token) then refuse .malformed

/-- Whether the next token is one of some. -/
def isAt (tokens : List Token) : Reading Bool := do
  return tokens.contains (← peek)

/-! ## Decorations -/

/-- The anchor and the tag of a node. -/
structure Decoration where
  anchor : Option String
  tag : Option (Option String × String)

/-- An anchor if one is next. -/
def anchor? : Reading (Option String) := do
  match ← peek with
  | .anchor name =>
    advance
    return some name
  | _ => return none

/-- A tag if one is next. -/
def tag? : Reading (Option (Option String × String)) := do
  match ← peek with
  | .tag handle ending =>
    advance
    return some (handle, ending)
  | _ => return none

/-- The anchor and the tag in front of a node, in either order. -/
def decoration : Reading Decoration := do
  match ← anchor? with
  | some name => return ⟨some name, ← tag?⟩
  | none =>
    match ← tag? with
    | some tag => return ⟨← anchor?, some tag⟩
    | none => return ⟨none, none⟩

/-- The full name of a tag. -/
def tagName (handles : List (String × String)) : Option (Option String × String) →
    Except Refusal (Option String)
  | none => .ok none
  | some (none, ending) => .ok (some ending)
  | some (some handle, ending) =>
    match handles.find? (fun entry => entry.1 = handle) with
    | some entry => .ok (some (entry.2 ++ ending))
    | none => .error .malformed

/-- The tag of a collection: without a name, or with that of no particular tag, the usual one. -/
def collectionTag (usual : Tag) : Option String → Tag
  | none => usual
  | some name => if name = "!" then usual else .ofName name

/-- The tag of a scalar. -/
def scalarTag (isPlain : Bool) : Option String → Tag
  | none => if isPlain then .unstated else .text
  | some name => if name = "!" then .unstated else .ofName name

/-- Starts a node: it gets the next number. Its name becomes known, unless it is known already. -/
def start (anchor : Option String) (node : Node) : Reading Nat :=
  fun progress =>
    let number := progress.nodes.length
    let progress := { progress with nodes := progress.nodes ++ [node] }
    match anchor with
    | none => .ok (number, progress)
    | some name =>
      if progress.anchors.any (fun entry => entry.1 = name) then .error .malformed
      else .ok (number, { progress with anchors := (name, number) :: progress.anchors })

/-- Says what is in a collection once it is read to its end. -/
def finish (number : Nat) (node : Node) : Reading Nat :=
  fun progress => .ok (number, { progress with nodes := progress.nodes.set number node })

/-- The node of a place where nothing is written. -/
def nothing : Reading Nat :=
  start none (.scalar .unstated "")

/-- The node that a reference stands for. -/
def referenced (name : String) : Reading Nat :=
  fun progress =>
    match progress.anchors.find? (fun entry => entry.1 = name) with
    | some entry => .ok (entry.2, progress)
    | none => .error .malformed

/-! ## The grammar -/

mutual

/-- A node. Block collections may be read only where `inBlock` allows them, and entries without
indentation of their own only where `bare` does. -/
def read (handles : List (String × String)) (inBlock bare : Bool) : (fuel : Nat) → Reading Nat
  | 0 => refuse .malformed
  | fuel + 1 => do
    match ← peek with
    | .reference name =>
      advance
      referenced name
    | _ =>
      let found ← decoration
      let name ← tagName handles found.tag
      let next ← peek
      let sequence := Node.sequence (collectionTag .sequence name)
      let mapping := Node.mapping (collectionTag .mapping name)
      if bare && next = .blockEntry then
        let number ← start found.anchor (sequence [])
        finish number (sequence (← bareEntries handles fuel))
      else
        match next with
        | .scalar text isPlain =>
          advance
          start found.anchor (.scalar (scalarTag isPlain name) text)
        | .flowSequenceStart =>
          let number ← start found.anchor (sequence [])
          advance
          finish number (sequence (← flowItems handles true fuel))
        | .flowMappingStart =>
          let number ← start found.anchor (mapping [])
          advance
          finish number (mapping (← flowPairs handles true fuel))
        | _ =>
          if inBlock && next = .blockSequenceStart then
            let number ← start found.anchor (sequence [])
            advance
            finish number (sequence (← blockEntries handles fuel))
          else if inBlock && next = .blockMappingStart then
            let number ← start found.anchor (mapping [])
            advance
            finish number (mapping (← blockPairs handles fuel))
          else if found.anchor.isSome || found.tag.isSome then
            start found.anchor (.scalar (scalarTag true name) "")
          else refuse .malformed

/-- A node, or nothing if one of some tokens is next. -/
def readUnless (handles : List (String × String)) (inBlock bare : Bool) (ends : List Token) :
    (fuel : Nat) → Reading Nat
  | 0 => refuse .malformed
  | fuel + 1 => do
    if ← isAt ends then nothing else read handles inBlock bare fuel

/-- The entries of a block sequence and its end. -/
def blockEntries (handles : List (String × String)) : (fuel : Nat) → Reading (List Nat)
  | 0 => refuse .malformed
  | fuel + 1 => do
    if ← accept .blockEntry then
      let item ← readUnless handles true false [.blockEntry, .blockEnd] fuel
      return item :: (← blockEntries handles fuel)
    else
      expect .blockEnd
      return []

/-- The entries of a sequence without indentation of its own. -/
def bareEntries (handles : List (String × String)) : (fuel : Nat) → Reading (List Nat)
  | 0 => refuse .malformed
  | fuel + 1 => do
    if ← accept .blockEntry then
      let item ← readUnless handles true false [.blockEntry, .key, .value, .blockEnd] fuel
      return item :: (← bareEntries handles fuel)
    else return []

/-- The pairs of a block mapping and its end. -/
def blockPairs (handles : List (String × String)) : (fuel : Nat) → Reading (List (Nat × Nat))
  | 0 => refuse .malformed
  | fuel + 1 => do
    let ends : List Token := [.key, .value, .blockEnd]
    if ← accept .key then
      let key ← readUnless handles true true ends fuel
      let v ← if ← accept .value then readUnless handles true true ends fuel else nothing
      return (key, v) :: (← blockPairs handles fuel)
    else
      expect .blockEnd
      return []

/-- The items of a sequence between brackets and its end. A pair may stand for a mapping of its
own. -/
def flowItems (handles : List (String × String)) (isFirst : Bool) :
    (fuel : Nat) → Reading (List Nat)
  | 0 => refuse .malformed
  | fuel + 1 => do
    if ← accept .flowSequenceEnd then return []
    else
      if !isFirst then expect .flowEntry
      let ends : List Token := [.flowEntry, .flowSequenceEnd]
      if ← accept .key then
        let number ← start none (.mapping .mapping [])
        let key ← readUnless handles false false (.value :: ends) fuel
        let v ← if ← accept .value then readUnless handles false false ends fuel else nothing
        let pair ← finish number (.mapping .mapping [(key, v)])
        return pair :: (← flowItems handles false fuel)
      else if ← accept .flowSequenceEnd then return []
      else
        let item ← read handles false false fuel
        return item :: (← flowItems handles false fuel)

/-- The pairs of a mapping between brackets and its end. A node alone is a key without a value. -/
def flowPairs (handles : List (String × String)) (isFirst : Bool) :
    (fuel : Nat) → Reading (List (Nat × Nat))
  | 0 => refuse .malformed
  | fuel + 1 => do
    if ← accept .flowMappingEnd then return []
    else
      if !isFirst then expect .flowEntry
      let ends : List Token := [.flowEntry, .flowMappingEnd]
      if ← accept .key then
        let key ← readUnless handles false false (.value :: ends) fuel
        let v ← if ← accept .value then readUnless handles false false ends fuel else nothing
        return (key, v) :: (← flowPairs handles false fuel)
      else if ← accept .flowMappingEnd then return []
      else
        let key ← read handles false false fuel
        let v ← nothing
        return (key, v) :: (← flowPairs handles false fuel)

end

/-! ## Documents -/

/-- The tag handles that need no definition. -/
def usualHandles : List (String × String) := [("!", "!"), ("!!", commonTagStart)]

/-- The directives in front of a document; at most one version, which must be a first one, and
each tag handle at most once. Gives the tag handles. -/
def directives : (fuel : Nat) → (hasVersion : Bool) → (handles : List (String × String)) →
    Reading (List (String × String))
  | 0, _, _ => refuse .malformed
  | fuel + 1, hasVersion, handles => do
    match ← peek with
    | .directive directive =>
      advance
      match directive with
      | .version major _ =>
        if hasVersion || major ≠ 1 then refuse .malformed else directives fuel true handles
      | .tagHandle handle start =>
        if handles.any (fun entry => entry.1 = handle) then refuse .malformed
        else directives fuel hasVersion ((handle, start) :: handles)
      | .unknown => directives fuel hasVersion handles
    | _ => return handles ++ usualHandles

/-- Passes over marks of the end of a document. -/
def skipEnds : (fuel : Nat) → Reading Unit
  | 0 => refuse .malformed
  | fuel + 1 => do
    if ← accept .documentEnd then skipEnds fuel

/-- The outermost node of the only document of a text, if there is one. -/
def readDocument (fuel : Nat) : Reading (Option Nat) := do
  match ← peek with
  | .textEnd => return none
  | .directive _ | .documentStart =>
    let handles ← directives fuel false []
    expect .documentStart
    let isEmpty ← match ← peek with
      | .directive _ | .documentStart | .documentEnd | .textEnd => pure true
      | _ => pure false
    let root ← if isEmpty then nothing else read handles true false fuel
    skipEnds fuel
    expect .textEnd
    return some root
  | _ =>
    let root ← read usualHandles true false fuel
    skipEnds fuel
    expect .textEnd
    return some root

/-- The nodes of the only document in a text and the number of the outermost one, if there is a
document. -/
def ofText? (text : List Char) : Except Refusal (Option (List Node × Nat)) :=
  let (tokens, stop) := tokens text
  match (readDocument (4 * tokens.length + 4)).run ⟨tokens, [], [], stop.getD .malformed⟩ with
  | .ok (root, progress) => .ok (root.map (fun root => (progress.nodes, root)))
  | .error refusal => .error refusal

end Node

end Nullability.Yaml
