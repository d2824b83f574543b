import Nullability.FileChange
import Nullability.SideBySide

/-!
# The end of documents beside assemblies

A change of a document ends its entry: the entry is taken out, and then its watch is stopped. A
disposal ends all entries, the newest first: as long as some are kept, one is taken out and its
watch stopped. Both take one step at a time.
-/

namespace Nullability.SideBySide

/-- How far an eviction has come. -/
inductive Eviction.Stage where
  | arrived
  /-- The entry was taken out; its watch is to be stopped. -/
  | removed (entry : Entry)
  | done
  deriving Inhabited

/-- The end of the entry of a path, because of a change of some kind. -/
structure Eviction where
  path : Path
  kind : FileChange.Kind
  stage : Eviction.Stage
  deriving Inhabited

namespace Eviction

/-- The eviction that a change asks for. -/
def ofChange (change : FileChange) : Except Failure Eviction :=
  change.watchedPath.map (fun path => ⟨path, change.kind, .arrived⟩)

/-- The next step. -/
def step (eviction : Eviction) (documents : SideBySide) (w : Workspace) :
    Eviction × SideBySide × Workspace :=
  match eviction.stage with
  | .arrived =>
    match documents.get? (key w.tree eviction.path) with
    | some entry =>
      ({ eviction with stage := .removed entry }, documents.erase (key w.tree eviction.path), w)
    | none => ({ eviction with stage := .done }, documents, w)
  | .removed entry =>
    ({ eviction with stage := .done }, documents,
      (w.stopWatch entry.watch).report (evictedEvent eviction.path eviction.kind.name))
  | .done => (eviction, documents, w)

/-- Both steps. -/
def run (eviction : Eviction) (documents : SideBySide) (w : Workspace) : SideBySide × Workspace :=
  let (eviction, documents, w) := eviction.step documents w
  let (_, documents, w) := eviction.step documents w
  (documents, w)

end Eviction

/-- What is done about a change. -/
def change (documents : SideBySide) (change : FileChange) (w : Workspace) :
    Except Failure Unit × SideBySide × Workspace :=
  match Eviction.ofChange change with
  | .error failure => (.error failure, documents, w)
  | .ok eviction => (.ok (), eviction.run documents w)

/-! ## Disposal -/

/-- How far a disposal has come. -/
inductive Disposal where
  /-- It is to be tested whether documents are kept. -/
  | testing
  /-- An entry is to be taken out. -/
  | removing
  /-- An entry was taken out; its watch is to be stopped. -/
  | removed (entry : Entry)
  | done
  /-- There was no entry to take out. -/
  | failed (failure : Failure)
  deriving Inhabited

namespace Disposal

/-- The next step. -/
def step (disposal : Disposal) (documents : SideBySide) (w : Workspace) :
    Disposal × SideBySide × Workspace :=
  match disposal with
  | testing => (if documents.isEmpty then done else removing, documents, w)
  | removing =>
    match documents.popLast? with
    | some ((_, entry), documents) => (removed entry, documents, w)
    | none => (failed .noEntry, documents, w)
  | removed entry => (testing, documents, w.stopWatch entry.watch)
  | done => (done, documents, w)
  | failed failure => (failed failure, documents, w)

/-- A number of steps. -/
def steps : Nat → Disposal → SideBySide → Workspace → Disposal × SideBySide × Workspace
  | 0, disposal, documents, w => (disposal, documents, w)
  | n + 1, disposal, documents, w =>
    let (disposal, documents, w) := disposal.step documents w
    steps n disposal documents w

/-- The outcome of a disposal; it can only fail if somebody else takes entries out. -/
def outcome : Disposal → Except Failure Unit
  | failed failure => .error failure
  | _ => .ok ()

end Disposal

/-- Ends all entries: three steps for each of them, and a last test. -/
def dispose (documents : SideBySide) (w : Workspace) :
    Except Failure Unit × SideBySide × Workspace :=
  let (disposal, documents, w) := Disposal.testing.steps (3 * documents.size + 1) documents w
  (disposal.outcome, documents, w)

end Nullability.SideBySide
