import Nullability.Yaml.Node
import Nullability.Yaml.Plain

/-!
# Values of YAML documents

A document gives a value: scalars give what they stand for, sequences lists, mappings mappings. A
mapping may take over the pairs of other mappings under a merge key; its own pairs count more, and of
several merged mappings the first one.

However often a collection is referred to, it is one collection, and it may contain itself. So a
document is given as its collections by their numbers. They are filled in the order in which they are
met, starting with the outermost one, and the first refusal on the way is that of the document.
-/

namespace Nullability.Yaml

/-! ## Characters of a text -/

/-- Whether a character may stand in a text at all. -/
def isTextChar (c : Char) : Bool :=
  let n := c.toNat
  n = 9 || n = 10 || n = 13 || (0x20 ≤ n && n ≤ 0x7E) || n = 0x85 ||
    (0xA0 ≤ n && n ≤ 0xFFFD) || 0x10000 ≤ n

/-- A text whose line ends are line feeds. -/
def withLineFeeds : List Char → List Char
  | '\r' :: '\n' :: rest => '\n' :: withLineFeeds rest
  | '\r' :: rest => '\n' :: withLineFeeds rest
  | c :: rest => c :: withLineFeeds rest
  | [] => []

namespace Node

/-! ## Tags and texts of nodes -/

/-- The tag of a node; that of a plain scalar is implied by its text. -/
def tag : Node → Tag
  | scalar .unstated text => .ofPlain text
  | scalar tag _ => tag
  | sequence tag _ => tag
  | mapping tag _ => tag

/-- A node with another tag. -/
def withTag (tag : Tag) : Node → Node
  | scalar _ text => scalar tag text
  | sequence _ items => sequence tag items
  | mapping _ pairs => mapping tag pairs

/-- The pairs of a mapping; other nodes have none. -/
def pairs : Node → List (Nat × Nat)
  | mapping _ pairs => pairs
  | _ => []

/-- The node with a number. -/
def numbered (nodes : List Node) (number : Nat) : Node :=
  nodes.getD number default

/-- The text that a node is read as: that of a scalar, or, for a mapping, that of the node under its
first default key. `fuel` bounds the length of the way; if it has no end, there is no text. -/
def text (nodes : List Node) : (fuel number : Nat) → Except Refusal String
  | 0, _ => .error .endless
  | fuel + 1, number =>
    match Node.numbered nodes number with
    | scalar _ text => .ok text
    | mapping _ pairs =>
      match pairs.find? (fun pair => (Node.numbered nodes pair.1).tag = .default) with
      | some pair => text nodes fuel pair.2
      | none => .error .malformed
    | sequence _ _ => .error .malformed

/-- The value of a node with a tag for scalars. Only the text of a moment must be that of the node
itself. -/
def scalarAt (nodes : List Node) (number : Nat) : Except Refusal Value :=
  match (Node.numbered nodes number).tag, Node.numbered nodes number with
  | .null, _ | .bool, _ | .int, _ | .float, _ | .binary, _ | .text, _ | .moment, scalar _ _ => do
    scalarValue (Node.numbered nodes number).tag (← text nodes nodes.length number)
  | .moment, _ => do
    let _ ← text nodes nodes.length number
    .error .noText
  | _, _ => .error .malformed

/-! ## Merge keys -/

/-- A step of carrying out merge keys, which changes the nodes. -/
abbrev Merging (α : Type) : Type := StateT (List Node) (Except Refusal) α

/-- Gives a mapping other pairs. -/
def setPairs (number : Nat) (pairs : List (Nat × Nat)) : Merging Unit := fun nodes =>
  .ok ((), nodes.set number (.mapping (Node.numbered nodes number).tag pairs))

/-- Makes a key a text if it is a default key. -/
def renameKey (pair : Nat × Nat) : Merging Unit := fun nodes =>
  let key := Node.numbered nodes pair.1
  .ok ((), if key.tag = .default then nodes.set pair.1 (key.withTag .text) else nodes)

mutual

/-- Carries out the merge keys of a mapping; default keys are texts from then on. -/
def flatten : (fuel number : Nat) → Merging Unit
  | 0, _ => fun _ => .error .malformed
  | fuel + 1, number => do
    let merged ← takeMerged fuel number
    let own := (Node.numbered (← get) number).pairs
    own.forM renameKey
    setPairs number (merged ++ own)

/-- Takes the merge keys out of a mapping and gives the pairs that come in their place: those of the
mapping under a merge key, or those of the mappings in the sequence there, the first one last. -/
def takeMerged : (fuel number : Nat) → Merging (List (Nat × Nat))
  | 0, _ => fun _ => .error .malformed
  | fuel + 1, number => do
    let nodes ← get
    let pairs := (Node.numbered nodes number).pairs
    let isMerge := fun (pair : Nat × Nat) => decide ((Node.numbered nodes pair.1).tag = .merge)
    match pairs.find? isMerge with
    | none => return []
    | some pair =>
      setPairs number (pairs.eraseP isMerge)
      let taken ← match Node.numbered nodes pair.2 with
        | mapping _ _ => flattened fuel pair.2
        | sequence _ items => do
          let all ← items.mapM (flattened fuel)
          pure all.reverse.flatten
        | scalar _ _ => fun _ => .error .malformed
      return taken ++ (← takeMerged fuel number)

/-- The pairs of a mapping whose merge keys are carried out. -/
def flattened : (fuel number : Nat) → Merging (List (Nat × Nat))
  | 0, _ => fun _ => .error .malformed
  | fuel + 1, number => do
    match Node.numbered (← get) number with
    | mapping _ _ =>
      flatten fuel number
      return (Node.numbered (← get) number).pairs
    | _ => fun _ => .error .malformed

end

/-- How deep the steps of carrying out merge keys can be inside one another: before each further one
a merge key is taken out. -/
def mergeDepth (nodes : List Node) : Nat :=
  3 * (nodes.flatMap pairs).length + 3

end Node

/-! ## Collections -/

/-- What a node stands for: a value without parts, or a collection, by its number. -/
inductive Item where
  | value (v : Value)
  | collection (number : Nat)
  deriving Inhabited

/-- What a collection holds. -/
inductive Collection where
  | list (items : List Item)
  | pairs (items : List (Item × Item))
  | set (keys : List Value)
  | mapping (entries : List (Value × Item))
  deriving Inhabited

/-- A document: its collections by their numbers, and what the outermost node stands for. -/
structure Document where
  collections : List (Nat × Collection)
  root : Item
  deriving Inhabited

namespace Document

/-- What is known while collections are filled. -/
structure Progress where
  nodes : List Node
  /-- What the nodes that were met stand for. -/
  items : List (Nat × Item)
  /-- The collections that were met and are still to be filled, in that order. -/
  waiting : List Nat
  collections : List (Nat × Collection)

/-- A step of filling collections. -/
abbrev Filling (α : Type) : Type := StateT Progress (Except Refusal) α

/-- Refuses the document. -/
def refuse {α : Type} (refusal : Refusal) : Filling α :=
  fun _ => .error refusal

/-- What a node stands for. It is found out when the node is met for the first time. -/
def item (number : Nat) : Filling Item := fun progress =>
  match progress.items.find? (fun entry => entry.1 = number) with
  | some entry => .ok (entry.2, progress)
  | none =>
    match (Node.numbered progress.nodes number).tag with
    | .sequence | .pairs | .mapping | .set =>
      .ok (.collection number, { progress with
        items := (number, .collection number) :: progress.items
        waiting := progress.waiting ++ [number] })
    | _ => do
      let v ← Node.scalarAt progress.nodes number
      .ok (.value v, { progress with items := (number, .value v) :: progress.items })

/-- The two items of a mapping with one pair. -/
def onlyPair (number : Nat) : Filling (Item × Item) := do
  match Node.numbered (← get).nodes number with
  | .mapping _ [pair] => return (← item pair.1, ← item pair.2)
  | _ => refuse .malformed

/-- The key and the item of a pair. A collection cannot be a key. -/
def entry (pair : Nat × Nat) : Filling (Value × Item) := do
  match ← item pair.1 with
  | .value key => return (key, ← item pair.2)
  | .collection _ => refuse .malformed

/-- A list of pairs with the last item under each key. -/
def distinct (entries : List (Value × Item)) : List (Value × Item) :=
  entries.foldl (fun done (key, item) => Value.store key item done) []

/-- The entries of a mapping, with its merge keys carried out. -/
def entries (number : Nat) : Filling (List (Value × Item)) := do
  let progress ← get
  let (_, nodes) ← (Node.flatten (Node.mergeDepth progress.nodes) number).run progress.nodes
  set { progress with nodes := nodes }
  return distinct (← (Node.numbered nodes number).pairs.mapM entry)

/-- What a collection holds. Its node must be of the kind that its tag says. -/
def contents (number : Nat) : Filling Collection := do
  let node := Node.numbered (← get).nodes number
  match node.tag, node with
  | .sequence, .sequence _ items => return .list (← items.mapM item)
  | .pairs, .sequence _ items => return .pairs (← items.mapM onlyPair)
  | .mapping, .mapping _ _ => return .mapping (← entries number)
  | .set, .mapping _ _ => return .set ((← entries number).map Prod.fst)
  | _, _ => refuse .malformed

/-- Fills the collections that wait, and those that are met meanwhile; `fuel` bounds their number. -/
def fill : (fuel : Nat) → Filling Unit
  | 0 => pure ()
  | fuel + 1 => do
    let progress ← get
    match progress.waiting with
    | [] => pure ()
    | number :: rest =>
      set { progress with waiting := rest }
      let found ← contents number
      modify fun progress =>
        { progress with collections := (number, found) :: progress.collections }
      fill fuel

/-- The document with some nodes. -/
def ofNodes (nodes : List Node) (root : Nat) : Except Refusal Document := do
  let (root, progress) ← (do
    let root ← item root
    fill nodes.length
    return root : Filling Item).run ⟨nodes, [], [], []⟩
  return ⟨progress.collections, root⟩

/-! ## Values -/

/-- The collection with a number. -/
def collection? (d : Document) (number : Nat) : Option Collection :=
  (d.collections.find? (fun entry => entry.1 = number)).map Prod.snd

/-- The value of an item inside some collections, where a collection inside itself is cut off; `fuel`
bounds the depth. -/
def valueFrom (d : Document) : (fuel : Nat) → (outer : List Nat) → Item → Value
  | _, _, .value v => v
  | 0, _, .collection _ => .null
  | fuel + 1, outer, .collection number =>
    let inner := d.valueFrom fuel (number :: outer)
    let isCut := outer.contains number
    match d.collection? number with
    | some (.list items) => if isCut then .recurrence false else .list (items.map inner)
    | some (.pairs items) =>
      if isCut then .recurrence false
      else .list (items.map (fun pair => .tuple [inner pair.1, inner pair.2]))
    | some (.set keys) => .set keys
    | some (.mapping entries) =>
      if isCut then .recurrence true
      else .mapping (entries.map (fun entry => (entry.1, inner entry.2)))
    | none => .null

/-- The value of an item as a whole. -/
def value (d : Document) (item : Item) : Value :=
  d.valueFrom (d.collections.length + 1) [] item

/-- The entries of an item that is a mapping. -/
def entries? (d : Document) : Item → Option (List (Value × Item))
  | .collection number =>
    match d.collection? number with
    | some (.mapping entries) => some entries
    | _ => none
  | .value _ => none

/-- The items of an item that is a list. -/
def items? (d : Document) : Item → Option (List Item)
  | .collection number =>
    match d.collection? number with
    | some (.list items) => some items
    | _ => none
  | .value _ => none

end Document

/-- The only document in a text; without a document there is just nothing. -/
def read (text : String) : Except Refusal Document :=
  let cs := withLineFeeds text.toList
  if cs.all isTextChar then
    match Node.ofText? cs with
    | .ok (some (nodes, root)) => Document.ofNodes nodes root
    | .ok none => .ok ⟨[], .value .null⟩
    | .error refusal => .error refusal
  else .error .malformed

end Nullability.Yaml
