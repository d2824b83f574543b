import Nullability.AnnotationMap.Load
import Nullability.Cache.Store
import Nullability.Installation
import Nullability.Installation.Documents

/-!
# The baseline

The baseline is the compacted map of all installed documents. It is kept in a cache file, stamped
with the time of the newest document, and taken from there as long as no document is newer. A cache
file that is missing, damaged, empty or stale is no reason to fail: the documents are read again and
the cache file is replaced, and if that is not possible, the next program does it.

Any failure in building the baseline ends in a fault of the baseline, which names the patterns of
all places that were looked at.
-/

namespace Nullability

/-- Reads a document into a map. -/
def AnnotationMap.loadFile (path : Path) (m : AnnotationMap) : Job AnnotationMap := do
  Job.noteDocument path
  let content ← Job.inspect (fun tree => tree.read path)
  match m.loadDocument path.text content with
  | (m, none) => return m
  | (_, some failure) => Job.fail failure

/-- Where the baseline comes from and where it is kept. -/
structure Baseline where
  locations : Locations
  scanner : ScannerSettings
  cachePath : Path
  deriving Inhabited

namespace Baseline

/-- The baseline that settings describe. -/
def ofSettings (settings : Settings) : Baseline :=
  ⟨settings.locations, settings.scanner, Path.ofText settings.locations.cachePath⟩

/-- The patterns of all places that are looked at. -/
def patterns (b : Baseline) : List String :=
  Installation.patterns b.locations b.scanner

/-! ## Reports -/

/-- A cache file cannot be used. -/
def unusable (path : Path) (fault : Fault) : Event :=
  ⟨.warning, "annotation_cache_load_failed",
    [("path", .text path.text), ("error", .text fault.render)]⟩

/-- A cache file cannot be written. -/
def unsaved (path : Path) : Event :=
  ⟨.warning, "annotation_cache_save_failed",
    [("path", .text path.text), ("error", .text "<os error>")]⟩

/-- The baseline was taken from the cache file. -/
def reused (path : Path) (members : Nat) : Event :=
  ⟨.info, "annotation_cache_reused", [("path", .text path.text), ("members", .int members)]⟩

/-- The baseline was built from documents. -/
def rebuilt (documents members compacted : Nat) : Event :=
  ⟨.info, "annotation_cache_rebuilt",
    [("files", .int documents), ("members", .int members), ("compacted", .int compacted)]⟩

/-! ## Steps -/

/-- Finds the installed documents. -/
def findDocuments (b : Baseline) : Job (List Path) :=
  Job.phase "annotation_cache:scan" (do
    let folders ← Job.inspect (fun tree => Installation.foldersToScan tree b.locations b.scanner)
    Documents.find folders)

/-- The time of the newest of some documents. -/
def newest (tree : FileTree) (documents : List Path) : Except Failure Int := do
  let times ← documents.mapM (fun path => (tree.file path).map Prod.snd)
  match times with
  | [] => .error .badValue
  | first :: rest => return rest.foldl max first

/-- Whether a failure of reading a cache file only means that there is no usable one. -/
def isTolerable : Failure → Bool
  | .fault (.cacheCorrupt ..) | .fault (.cacheSchemaMismatch ..) => true
  | failure => failure.isFileSystem

/-- Reports that a cache file cannot be used, if that is all a failure means. -/
def withoutCache (b : Baseline) (failure : Failure) : Job (Option AnnotationCache) :=
  if isTolerable failure then do
    match failure with
    | .fault fault => Job.report (unusable b.cachePath fault)
    | _ => pure ()
    return none
  else Job.fail failure

/-- The cache in the cache file, if there is a usable one. That the system does not tell whether
there is a file is a failure of its own. -/
def cached? (b : Baseline) : Job (Option AnnotationCache) := do
  if ← Job.inspect (fun tree => tree.asksFile b.cachePath) then
    let read := Job.inspect (fun tree => AnnotationCache.load tree b.cachePath)
    match ← Job.outcome (Job.phase "annotation_cache:read" read) with
    | .ok cache => return if cache.map.isEmpty then none else some cache
    | .error failure => b.withoutCache failure
  else return none

/-- The map of some documents, one after the other. -/
def loadAll (documents : List Path) (m : AnnotationMap) : Job AnnotationMap :=
  match documents with
  | [] => pure m
  | path :: rest => do loadAll rest (← AnnotationMap.loadFile path m)

/-- Builds the cache from documents, the newest of which has the given time. -/
def rebuild (b : Baseline) (documents : List Path) (time : Int) : Job AnnotationCache := do
  let all ← Job.phase "annotation_cache:create" (loadAll documents .empty)
  let m := all.compact
  if m.isEmpty then Job.fail (.fault (.documentsEmpty b.patterns))
  else
    Job.report (rebuilt documents.length m.size all.emptyCount)
    return ⟨.time time, m⟩

/-- Writes a cache to a file. -/
def writeCache (path : Path) (cache : AnnotationCache) : Job Unit := fun w =>
  let (outcome, tree) := cache.store path w.now w.tree
  (outcome, { w with tree := tree })

/-- Keeps a cache for the next program by writing it, if the file system allows it. -/
def saveWith (b : Baseline) (write : AnnotationCache → Job Unit) (cache : AnnotationCache) :
    Job Unit := do
  match ← Job.outcome (Job.phase "annotation_cache:write" (write cache)) with
  | .ok () => pure ()
  | .error failure =>
    if failure.isFileSystem then Job.report (unsaved b.cachePath) else Job.fail failure

/-- Builds the baseline from documents and keeps it. -/
def rebuildWith (b : Baseline) (write : AnnotationCache → Job Unit) (documents : List Path)
    (time : Int) : Job AnnotationMap := do
  let cache ← b.rebuild documents time
  b.saveWith write cache
  return cache.map

/-- The baseline, with failures of all kinds. -/
def obtainWith (b : Baseline) (write : AnnotationCache → Job Unit) : Job AnnotationMap := do
  let documents ← b.findDocuments
  if documents.isEmpty then Job.fail (.fault (.documentsMissing b.patterns))
  else
    let time ← Job.inspect (fun tree => newest tree documents)
    match ← b.cached? with
    | none => b.rebuildWith write documents time
    | some cache =>
      if cache.isStale time then b.rebuildWith write documents time
      else
        Job.report (reused b.cachePath cache.map.size)
        return cache.map

/-- The fault of the baseline that a failure ends in; a request to stop stays one. -/
def asFault (b : Baseline) (failure : Failure) : Failure :=
  match failure with
  | .interrupted => .interrupted
  | .fault (.documentsMissing _) | .fault (.documentsEmpty _) | .fault (.loadFailed _ _) => failure
  | _ => .fault (.loadFailed b.patterns failure.describe)

/-- The baseline, which is kept by writing it in some way. -/
def createWith (b : Baseline) (write : AnnotationCache → Job Unit) : Job AnnotationMap := fun w =>
  let (a, w) := b.obtainWith write w
  (a.mapError b.asFault, w)

/-- The baseline. -/
def create (b : Baseline) : Job AnnotationMap :=
  b.createWith (writeCache b.cachePath)

end Baseline

end Nullability
