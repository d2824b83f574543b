import Nullability.Cache.File
import Nullability.FileTree

/-!
# Cache files in a tree

A cache file is replaced as a whole: the new content goes to a temporary file in the same folder,
which then takes the place of the cache file. So whoever reads the cache file finds what one writer
wrote from beginning to end. A writer takes one step at a time, each of which may fail; after a
failure it removes its temporary file.
-/

namespace Nullability

/-- The bytes of a cache, or the failure of writing one that does not fit the format. -/
def AnnotationCache.toBytes (cache : AnnotationCache) : Except Failure (List UInt8) :=
  match cache.pack with
  | .ok bytes => .ok bytes
  | .error .integerTooLarge => .error .outOfRange
  | .error .tooLong => .error .badValue

/-- Reads the cache file at a path. -/
def AnnotationCache.load (tree : FileTree) (path : Path) : Except Failure AnnotationCache := do
  let bytes ← tree.read path
  AnnotationCache.unpack path.text bytes

/-- How far a writer has come. -/
inductive CacheWriter.Stage where
  | arrived
  /-- The folder of the cache file is there. -/
  | folderMade
  /-- The temporary file is there, still empty. -/
  | fileMade
  /-- The temporary file holds the content. -/
  | contentWritten
  /-- The cache file is replaced. -/
  | done
  /-- A step failed, and the temporary file is gone. -/
  | failed (failure : Failure)
  deriving Inhabited

/-- Someone who replaces a cache file. -/
structure CacheWriter where
  path : Path
  /-- Where the content is put first: a name in the same folder that nothing else has. -/
  temporary : Path
  content : List UInt8
  now : Int
  stage : CacheWriter.Stage
  deriving Inhabited

namespace CacheWriter

/-- Whether the writer has come to an end. -/
def isFinished (writer : CacheWriter) : Bool :=
  match writer.stage with
  | .done | .failed _ => true
  | _ => false

/-- The change that the next step makes to the tree, and the stage behind it. -/
def change (writer : CacheWriter) (tree : FileTree) : Except Failure (Stage × FileTree) :=
  match writer.stage with
  | .arrived => (tree.makeFolders writer.path.parent).map (fun tree => (.folderMade, tree))
  | .folderMade =>
    (tree.write writer.temporary [] writer.now).map (fun tree => (.fileMade, tree))
  | .fileMade =>
    (tree.write writer.temporary writer.content writer.now).map
      (fun tree => (.contentWritten, tree))
  | .contentWritten =>
    (tree.replace writer.temporary writer.path).map (fun tree => (.done, tree))
  | stage => .ok (stage, tree)

/-- The tree without the temporary file. -/
def withoutTemporary (writer : CacheWriter) (tree : FileTree) : FileTree :=
  match writer.stage with
  | .fileMade | .contentWritten =>
    match tree.delete writer.temporary with
    | .ok tree => tree
    | .error _ => tree
  | _ => tree

/-- Gives up with a failure. -/
def giveUp (writer : CacheWriter) (failure : Failure) (tree : FileTree) :
    CacheWriter × FileTree :=
  ({ writer with stage := .failed failure }, writer.withoutTemporary tree)

/-- The next step. -/
def step (writer : CacheWriter) (tree : FileTree) : CacheWriter × FileTree :=
  match writer.change tree with
  | .ok (stage, tree) => ({ writer with stage := stage }, tree)
  | .error failure => writer.giveUp failure tree

/-- All four steps. -/
def run (writer : CacheWriter) (tree : FileTree) : CacheWriter × FileTree :=
  let (writer, tree) := writer.step tree
  let (writer, tree) := writer.step tree
  let (writer, tree) := writer.step tree
  writer.step tree

/-- A temporary file next to a path that is not there yet. -/
def freshBeside (tree : FileTree) (path : Path) : Path :=
  let beside := fun (n : Nat) =>
    path.parent.append ["." ++ path.name ++ "." ++ toString n ++ ".tmp"]
  let taken := fun (n : Nat) => (tree.node? (beside n)).isSome
  beside (((List.range (tree.nodes.size + 1)).find? (fun n => !taken n)).getD 0)

/-- A writer that has just arrived. The name of its temporary file is free once the folder is there,
since folders that are made can let the path lead to what was out of reach before. -/
def arriving (tree : FileTree) (path : Path) (content : List UInt8) (now : Int) : CacheWriter :=
  let furnished := (tree.makeFolders path.parent).toOption.getD tree
  ⟨path, freshBeside furnished path, content, now, .arrived⟩

end CacheWriter

/-- Writes a cache to the file at a path, and makes the folder of the file if it is missing. -/
def AnnotationCache.store (cache : AnnotationCache) (path : Path) (now : Int)
    (tree : FileTree) : Except Failure Unit × FileTree :=
  match cache.toBytes with
  | .error failure => (.error failure, tree)
  | .ok bytes =>
    let (writer, tree) := (CacheWriter.arriving tree path bytes now).run tree
    match writer.stage with
    | .failed failure => (.error failure, tree)
    | _ => (.ok (), tree)

end Nullability
