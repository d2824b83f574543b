import Nullability.Event
import Nullability.FileChange
import Nullability.Settings

/-!
# File watchers

A watcher of one file listens to a source that notices the changes in a folder and reports them
batch by batch, as far as the watcher accepts them: those of files with the same name. The watcher
tells each of them to whom it concerns. A batch is told as a whole; a request to stop, which may
come from the one who is told, is heeded between batches. If the source fails before that, the file
counts as deleted, so that whatever depends on it is given up.
-/

namespace Nullability

/-- What a source says that happened to a file. -/
inductive FileWatcher.Notice.Kind where
  | added
  | modified
  | deleted
  deriving DecidableEq, Repr, Inhabited

/-- What a source notices about a file, whose path it spells. -/
structure FileWatcher.Notice where
  kind : Notice.Kind
  path : String
  deriving DecidableEq, Repr, Inhabited

namespace FileWatcher.Notice

/-- What a kind of notice is told as. -/
def Kind.told : Kind → FileChange.Kind
  | added => .created
  | modified => .changed
  | deleted => .deleted

/-- A notice as the change that is told. -/
def change (notice : Notice) : FileChange :=
  ⟨notice.kind.told, .ofText notice.path, none⟩

end FileWatcher.Notice

/-- What a source of changes reports. -/
inductive FileWatcher.Signal where
  /-- Changes that were noticed together. -/
  | batch (changes : List FileChange)
  /-- The source fails, for a reason. -/
  | failure (reason : String)
  /-- Somebody asks the watcher to stop while the source has nothing to report. -/
  | stopRequest
  deriving Inhabited

/-- What a source is asked to do. -/
structure FileWatcher.Order where
  folder : Path
  isRecursive : Bool
  settings : WatcherSettings
  deriving DecidableEq, Repr, Inhabited

/-- A watcher of one file. -/
structure FileWatcher where
  path : Path
  settings : WatcherSettings
  /-- Whether the watcher was asked to stop. -/
  isStopped : Bool
  /-- What was told, from first to last. -/
  told : List FileChange
  /-- What was reported, from first to last. -/
  events : List Event
  deriving Inhabited

namespace FileWatcher

/-- A watcher that has not started. -/
def ofPath (path : Path) (settings : WatcherSettings) : FileWatcher :=
  ⟨path, settings, false, [], []⟩

/-- A watcher's order to its source: the folder of the file, without those below. -/
def order (watcher : FileWatcher) : Order :=
  ⟨watcher.path.parent, false, watcher.settings⟩

/-- Whether a change is about a file of the same name. -/
def accepts (watcher : FileWatcher) (change : FileChange) : Bool :=
  change.path.name = watcher.path.name

/-- Asks a watcher to stop. -/
def requestStop (watcher : FileWatcher) : FileWatcher :=
  { watcher with isStopped := true }

/-- Tells a change. The one who is told may ask the watcher to stop; `asks` says at which of the
changes, counted from zero. -/
def tell (asks : Nat → Bool) (watcher : FileWatcher) (change : FileChange) : FileWatcher :=
  { watcher with
    told := watcher.told ++ [change]
    isStopped := watcher.isStopped || asks watcher.told.length }

/-- Tells all changes of a batch. -/
def tellAll (asks : Nat → Bool) (watcher : FileWatcher) (changes : List FileChange) :
    FileWatcher :=
  changes.foldl (tell asks) watcher

/-- The source of a watcher failed. -/
def failedEvent (path : Path) (reason : String) : Event :=
  ⟨.warning, "annotation_watch_failed", [("path", .text path.text), ("error", .text reason)]⟩

/-- Reports that the source failed, and tells that the file is deleted, unless nobody wants to know
any more. -/
def giveUp (asks : Nat → Bool) (watcher : FileWatcher) (reason : String) : FileWatcher :=
  let watcher := { watcher with events := watcher.events ++ [failedEvent watcher.path reason] }
  if watcher.isStopped then watcher else watcher.tell asks ⟨.deleted, watcher.path, none⟩

/-- Hears what a source reports until it ends, fails, or a batch is told with a request to stop
pending. -/
def hear (asks : Nat → Bool) (watcher : FileWatcher) : List Signal → FileWatcher
  | [] => watcher
  | .stopRequest :: rest => hear asks watcher.requestStop rest
  | .failure reason :: _ => watcher.giveUp asks reason
  | .batch changes :: rest =>
    let watcher := watcher.tellAll asks changes
    if watcher.isStopped then watcher else hear asks watcher rest

/-- What a source reports of a signal: the changes that the watcher accepts, if there are any. -/
def sift (watcher : FileWatcher) : Signal → Option Signal
  | .batch changes =>
    match changes.filter watcher.accepts with
    | [] => none
    | accepted => some (.batch accepted)
  | signal => some signal

/-- Listens to a source, which reports what the watcher accepts. -/
def listen (asks : Nat → Bool) (watcher : FileWatcher) (signals : List Signal) : FileWatcher :=
  watcher.hear asks (signals.filterMap watcher.sift)

end FileWatcher

end Nullability
