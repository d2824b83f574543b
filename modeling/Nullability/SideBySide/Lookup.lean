import Nullability.Baseline
import Nullability.SideBySide

/-!
# Lookups of documents beside assemblies

A lookup finds the document at a path among those that are kept, or reads it, starts a watch on it,
and keeps both unless somebody else did so in the meantime; in that case it stops its own watch and
uses what the other one kept. A lookup takes one step at a time, so that lookups can be interleaved
with each other and with whatever else happens to the documents.
-/

namespace Nullability.SideBySide

/-- How far a lookup has come. -/
inductive Lookup.Stage where
  | arrived
  /-- The document is not kept. -/
  | missed
  /-- The document was read. -/
  | read (map : AnnotationMap)
  /-- A watch on the document was started. -/
  | watched (entry : Entry)
  /-- Somebody else keeps the document; the own watch is to be stopped. -/
  | outrun (kept : Entry) (watch : Nat)
  | found (entry : Entry)
  | failed (failure : Failure)
  deriving Inhabited

/-- A lookup of the document at a path. -/
structure Lookup where
  path : Path
  stage : Lookup.Stage
  deriving Inhabited

namespace Lookup

/-- A lookup that has not taken a step. -/
def ofPath (path : Path) : Lookup :=
  ⟨path, .arrived⟩

/-- Whether the lookup has come to its end. -/
def isFinished (lookup : Lookup) : Bool :=
  match lookup.stage with
  | .found _ | .failed _ => true
  | _ => false

/-- Keeps an entry unless the document is kept already. -/
def keep (path : Path) (entry : Entry) (documents : SideBySide) (tree : FileTree) :
    Stage × SideBySide :=
  match documents.get? (key tree path) with
  | some kept => (.outrun kept entry.watch, documents)
  | none => (.found entry, documents.insert (key tree path) entry)

/-- The stage behind the next step, and what the step does. -/
def advance (lookup : Lookup) (documents : SideBySide) (w : Workspace) :
    Stage × SideBySide × Workspace :=
  match lookup.stage with
  | .arrived =>
    match documents.get? (key w.tree lookup.path) with
    | some entry => (.found entry, documents, w)
    | none => (.missed, documents, w)
  | .missed =>
    match AnnotationMap.loadFile lookup.path .empty w with
    | (.ok map, w) => (.read map, documents, w)
    | (.error failure, w) => (.failed failure, documents, w)
  | .read map =>
    let (watch, w) := w.startWatch lookup.path
    (.watched ⟨map, watch⟩, documents, w)
  | .watched entry =>
    let w := w.report (loadedEvent lookup.path entry.map.size)
    let (stage, documents) := keep lookup.path entry documents w.tree
    (stage, documents, w)
  | .outrun kept watch => (.found kept, documents, w.stopWatch watch)
  | stage => (stage, documents, w)

/-- The next step. -/
def step (lookup : Lookup) (documents : SideBySide) (w : Workspace) :
    Lookup × SideBySide × Workspace :=
  let (stage, documents, w) := lookup.advance documents w
  ({ lookup with stage := stage }, documents, w)

/-- The first three steps, up to the start of the watch if there has to be one. -/
def runToWatch (lookup : Lookup) (documents : SideBySide) (w : Workspace) :
    Lookup × SideBySide × Workspace :=
  let (lookup, documents, w) := lookup.step documents w
  let (lookup, documents, w) := lookup.step documents w
  lookup.step documents w

/-- The other two steps. -/
def runFromWatch (lookup : Lookup) (documents : SideBySide) (w : Workspace) :
    Lookup × SideBySide × Workspace :=
  let (lookup, documents, w) := lookup.step documents w
  lookup.step documents w

/-- All five steps. -/
def run (lookup : Lookup) (documents : SideBySide) (w : Workspace) :
    Lookup × SideBySide × Workspace :=
  let (lookup, documents, w) := lookup.runToWatch documents w
  lookup.runFromWatch documents w

/-- What the lookup found at its end. -/
def outcome (lookup : Lookup) : Option (Except Failure AnnotationMap) :=
  match lookup.stage with
  | .found entry => some (.ok entry.map)
  | .failed failure => some (.error failure)
  | _ => none

/-- The watch that the lookup started, if it is about to keep it. -/
def ownWatch? (lookup : Lookup) : Option Nat :=
  match lookup.stage with
  | .watched entry => some entry.watch
  | _ => none

end Lookup

end Nullability.SideBySide
