import Nullability.Event
import Nullability.FileTree

/-!
# Workspaces

What operations work on: the files, the time, the watches on single files, and a record of what was
reported and which documents were read. A job changes a workspace and ends with a result or a
failure; what it did up to a failure stays done.
-/

namespace Nullability

/-- A watch on a file, which may have been stopped, even several times. -/
structure Watch where
  path : Path
  stops : Nat
  deriving DecidableEq, Inhabited

/-- What operations work on. -/
structure Workspace where
  tree : FileTree
  /-- The time of changes to files, in nanoseconds. -/
  now : Int
  /-- What a stopwatch shows at the end of every phase, in milliseconds. -/
  elapsed : Binary64
  /-- The watches in the order in which they were started. -/
  watches : List Watch
  /-- What was reported, from first to last. -/
  events : List Event
  /-- The paths of the documents that were to be read, from first to last. -/
  documents : List Path
  /-- How many maps were supplied from outside, instead of being built by default. -/
  supplies : Nat

namespace Workspace

/-- The workspace of a tree in which nothing has happened. -/
def ofTree (tree : FileTree) (now : Int) : Workspace :=
  ⟨tree, now, Binary64.signedZero false, [], [], [], 0⟩

/-- Reports an event. -/
def report (w : Workspace) (event : Event) : Workspace :=
  { w with events := w.events ++ [event] }

/-- Starts a watch on a file; it is known by the number of the watches before it. -/
def startWatch (w : Workspace) (path : Path) : Nat × Workspace :=
  (w.watches.length, { w with watches := w.watches ++ [⟨path, 0⟩] })

/-- Stops a watch. -/
def stopWatch (w : Workspace) (watch : Nat) : Workspace :=
  { w with watches := w.watches.modify watch (fun found =>
      { found with stops := found.stops + 1 }) }

end Workspace

/-- An operation on a workspace that ends with a result or a failure. -/
def Job (α : Type) : Type := Workspace → Except Failure α × Workspace

namespace Job

variable {α β : Type}

/-- A job that does nothing. -/
def result (a : α) : Job α := fun w => (.ok a, w)

/-- One job after the other; the second one does not start if the first one fails. -/
def andThen (job : Job α) (next : α → Job β) : Job β := fun w =>
  match job w with
  | (.ok a, w) => next a w
  | (.error failure, w) => (.error failure, w)

instance : Monad Job where
  pure := result
  bind := andThen

/-- A job that fails. -/
def fail (failure : Failure) : Job α := fun w => (.error failure, w)

/-- The outcome of a job, which itself does not fail. -/
def outcome (job : Job α) : Job (Except Failure α) := fun w =>
  let (a, w) := job w
  (.ok a, w)

/-- The files. -/
def tree : Job FileTree := fun w => (.ok w.tree, w)

/-- Computes something from the files. -/
def inspect (f : FileTree → Except Failure α) : Job α := fun w => (f w.tree, w)

/-- Reports an event. -/
def report (event : Event) : Job Unit := fun w => (.ok (), w.report event)

/-- Notes that a document is to be read. -/
def noteDocument (path : Path) : Job Unit := fun w =>
  (.ok (), { w with documents := w.documents ++ [path] })

/-- Notes that a map is supplied; gives the number of those supplied before. -/
def noteSupply : Job Nat := fun w => (.ok w.supplies, { w with supplies := w.supplies + 1 })

/-- Starts a watch on a file. -/
def startWatch (path : Path) : Job Nat := fun w =>
  let (watch, w) := w.startWatch path
  (.ok watch, w)

/-- Stops a watch. -/
def stopWatch (watch : Nat) : Job Unit := fun w => (.ok (), w.stopWatch watch)

/-- A job as a phase, whose end is reported even if it fails. -/
def phase (name : String) (job : Job α) : Job α := fun w =>
  let (a, w) := job w
  (a, w.report (.phaseEnded name w.elapsed))

end Job

end Nullability
