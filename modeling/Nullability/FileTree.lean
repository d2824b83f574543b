import Nullability.OrderedMap
import Nullability.Path

/-!
# File trees

Folders and files by the place where they are: the list of names on the way from the root. The root
is always a folder. A path is resolved against a current folder, one component after the other: what
stands before another component must be a folder, and a double dot leads back out. A path with a null
character is refused as it is.

The system need not tell what a path leads to: folders on the way may not be open to the user, or the
path may be too long. Such denials are kept with the tree, by the paths that are asked about.

Every operation changes at most the place it names and, where it says so, folders above it.
-/

namespace Nullability

/-- The names on the way from the root. -/
abbrev Place := List String

/-- What is at a place. -/
inductive FileTree.Node where
  | file (content : List UInt8) (modified : Int)
  | folder
  deriving DecidableEq, Inhabited

/-- Why the system does not tell what a path leads to. -/
inductive FileTree.Denial where
  | notPermitted
  | systemLimit
  deriving DecidableEq, Repr, Inhabited

/-- The failure that a denial is reported as. -/
def FileTree.Denial.failure : FileTree.Denial → Failure
  | notPermitted => .notPermitted
  | systemLimit => .systemLimit

/-- What is where, which folder relative paths start from, and about which paths the system does not
tell what they lead to. -/
structure FileTree where
  nodes : OrderedMap Place FileTree.Node
  current : Place
  denials : List (Path × FileTree.Denial)
  deriving DecidableEq

namespace FileTree

/-- A tree whose only folder below the root is the current one. -/
def withCurrent (current : Place) : FileTree :=
  ⟨OrderedMap.ofList ((List.range current.length).map
    (fun n => (current.take (n + 1), Node.folder))), current, []⟩

/-- What is at a place. -/
def at? (tree : FileTree) (place : Place) : Option Node :=
  if place = [] then some .folder else tree.nodes.get? place

/-- The text of the current folder. -/
def currentText (tree : FileTree) : String :=
  "/" ++ Text.join '/' tree.current

/-- The place where a path starts. -/
def start (tree : FileTree) (path : Path) : Place :=
  if path.isAbsolute then [] else tree.current

/-- The place that a component leads to. -/
def step (tree : FileTree) (place : Place) (part : String) : Except Failure Place :=
  match tree.at? place with
  | some .folder => .ok (if part = ".." then place.dropLast else place ++ [part])
  | some (.file _ _) => .error .notFolder
  | none => .error .noSuchFile

/-- The place that a path leads to; there need not be anything. -/
def resolve (tree : FileTree) (path : Path) : Except Failure Place :=
  if path.hasNull then .error .badValue else path.parts.foldlM tree.step (tree.start path)

/-- What a path leads to, if it leads to anything. -/
def node? (tree : FileTree) (path : Path) : Option Node :=
  match tree.resolve path with
  | .ok place => tree.at? place
  | .error _ => none

/-- Whether a path leads to a file. -/
def isFile (tree : FileTree) (path : Path) : Bool :=
  match tree.node? path with
  | some (.file _ _) => true
  | _ => false

/-- Why the system does not tell what a path leads to, if it does not. Nothing is asked about a path
with a null character. -/
def denial? (tree : FileTree) (path : Path) : Option Denial :=
  if path.hasNull then none
  else (tree.denials.find? (fun denied => denied.1 = path)).map Prod.snd

/-- Whether a path leads to a file, if the system tells. -/
def asksFile (tree : FileTree) (path : Path) : Except Failure Bool :=
  match tree.denial? path with
  | some denial => .error denial.failure
  | none => .ok (tree.isFile path)

/-- Whether a path leads to a folder. -/
def isFolder (tree : FileTree) (path : Path) : Bool :=
  tree.node? path = some .folder

/-- The file that a path leads to: its content and the time of its last change. -/
def file (tree : FileTree) (path : Path) : Except Failure (List UInt8 × Int) := do
  let place ← tree.resolve path
  match tree.at? place with
  | some (.file content modified) => return (content, modified)
  | some .folder => .error .isFolder
  | none => .error .noSuchFile

/-- The content of the file that a path leads to. -/
def read (tree : FileTree) (path : Path) : Except Failure (List UInt8) :=
  (tree.file path).map Prod.fst

/-! ## Changes -/

/-- Puts a node at a place. -/
def put (tree : FileTree) (place : Place) (node : Node) : FileTree :=
  { tree with nodes := tree.nodes.insert place node }

/-- Makes one folder; its parent must be there, and nothing at the place itself. -/
def makeFolder (tree : FileTree) (path : Path) : Except Failure FileTree := do
  let place ← tree.resolve path
  match tree.at? place.dropLast, tree.at? place with
  | _, some _ => .error .alreadyExists
  | some .folder, none => .ok (tree.put place .folder)
  | some (.file _ _), none => .error .notFolder
  | none, none => .error .noSuchFile

/-- Makes one folder unless a folder is there already. -/
def ensureFolder (tree : FileTree) (path : Path) : Except Failure FileTree :=
  match tree.makeFolder path with
  | .error failure => if tree.isFolder path then .ok tree else .error failure
  | made => made

/-- Makes a folder and, where they are missing, those on the way to it; `fuel` bounds their
number. -/
def makeFoldersFrom : (fuel : Nat) → FileTree → Path → Except Failure FileTree
  | 0, tree, path => tree.ensureFolder path
  | fuel + 1, tree, path =>
    match tree.makeFolder path with
    | .error .noSuchFile =>
      if path.parent = path then .error .noSuchFile
      else do
        let tree ← makeFoldersFrom fuel tree path.parent
        tree.ensureFolder path
    | .error failure => if tree.isFolder path then .ok tree else .error failure
    | made => made

/-- Makes a folder and, where they are missing, those on the way to it. -/
def makeFolders (tree : FileTree) (path : Path) : Except Failure FileTree :=
  makeFoldersFrom path.parts.length tree path

/-- Puts a file where a path leads, in place of a file that is there; the folder must exist. -/
def write (tree : FileTree) (path : Path) (content : List UInt8) (modified : Int) :
    Except Failure FileTree := do
  let place ← tree.resolve path
  match tree.at? place with
  | some .folder => .error .isFolder
  | _ => return tree.put place (.file content modified)

/-- Moves a file to another path, in place of a file that is there. The new path must end with a
name. -/
def replace (tree : FileTree) (source target : Path) : Except Failure FileTree := do
  let (content, modified) ← tree.file source
  let place ← tree.resolve target
  if target.name = "" ∨ target.name = ".." then .error .systemLimit
  else
    match tree.at? place with
    | some .folder => .error .isFolder
    | _ =>
      let origin ← tree.resolve source
      let tree := tree.put place (.file content modified)
      return if origin = place then tree else { tree with nodes := tree.nodes.erase origin }

/-- Sets the time of the last change of a file. Folders have no time here. -/
def touch (tree : FileTree) (path : Path) (modified : Int) : Except Failure FileTree := do
  let place ← tree.resolve path
  match tree.at? place with
  | some (.file content _) => return tree.put place (.file content modified)
  | some .folder => return tree
  | none => .error .noSuchFile

/-- Removes what a path leads to, with all that is below. -/
def delete (tree : FileTree) (path : Path) : Except Failure FileTree := do
  let place ← tree.resolve path
  match tree.at? place with
  | some _ =>
    return { tree with nodes := tree.nodes.filter (fun other _ => !place.isPrefixOf other) }
  | none => .error .noSuchFile

/-! ## Listings -/

/-- The names directly inside a place, in no particular order. -/
def names (tree : FileTree) (place : Place) : List String :=
  tree.nodes.entries.filterMap (fun (other, _) =>
    match other.getLast? with
    | some name => if other.dropLast = place then some name else none
    | none => none)

/-- The ways from a place to all that is below it, in no particular order. -/
def below (tree : FileTree) (place : Place) : List (List String × Node) :=
  tree.nodes.entries.filterMap (fun (other, node) =>
    if place.isPrefixOf other ∧ other ≠ place then some (other.drop place.length, node) else none)

end FileTree

end Nullability
