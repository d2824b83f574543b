import Nullability.AnnotationMap
import Nullability.Workspace

/-!
# Documents beside assemblies

An assembly may come with an annotation document of its own, in the same folder and named after it.
Such a document is read at the first lookup of one of the assembly's symbols and then kept, together
with a watch on it, until the watch tells of a change. Documents are kept by the identity of their
paths, so that it does not matter how a path is spelled.
-/

namespace Nullability

/-- Where the assemblies are that a program refers to, by their names. -/
abbrev References := OrderedMap String String

/-- A document that is kept: what it says, and the watch on it. -/
structure SideBySide.Entry where
  map : AnnotationMap
  watch : Nat
  deriving DecidableEq, Inhabited

/-- The documents that are kept, by the identity of their paths. -/
abbrev SideBySide := OrderedMap String SideBySide.Entry

namespace SideBySide

/-- What the name of a document has in place of the ending of its assembly. -/
def documentEnding : String := ".ExternalAnnotations.xml"

/-- Where the document of an assembly would be. -/
def documentOf (assembly : Path) : Except Failure Path :=
  assembly.withName (assembly.stem ++ documentEnding)

/-- The document of the assembly that declares a symbol, if the assembly is known and the document
is there. -/
def locate (tree : FileTree) (references : References) (symbol : Symbol) :
    Except Failure (Option Path) :=
  match symbol.assembly.bind references.get? with
  | none => .ok none
  | some assembly =>
    if assembly.isEmpty then .ok none
    else
      (documentOf (Path.ofText assembly)).map (fun path =>
        if tree.isFile path then some path else none)

/-- The key of a path. -/
def key (tree : FileTree) (path : Path) : String :=
  Path.identity tree.currentText path.text

/-- Whether the document at a path is kept. -/
def keeps (documents : SideBySide) (tree : FileTree) (path : Path) : Bool :=
  documents.contains (key tree path)

/-- A document was read. -/
def loadedEvent (path : Path) (members : Nat) : Event :=
  ⟨.debug, "side_by_side_entry_loaded", [("path", .text path.text), ("members", .int members)]⟩

/-- A document is not kept any more because of a change of some kind. -/
def evictedEvent (path : Path) (change : String) : Event :=
  ⟨.debug, "side_by_side_entry_evicted", [("path", .text path.text), ("change", .text change)]⟩

end SideBySide

end Nullability
