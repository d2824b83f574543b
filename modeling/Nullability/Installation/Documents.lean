import Nullability.Sorting
import Nullability.Text.LetterCase
import Nullability.Workspace

/-!
# Installed documents

The annotation documents below some folders: all files with the right ending, at any depth. Within a
folder they are sorted by their paths. A file that is reached in several ways counts once, at its
first place and as it is spelled there.
-/

namespace Nullability.Documents

/-- The ending of annotation documents, in lower case. -/
def ending : String := ".xml"

/-- Whether a path has the ending of a document in any case. -/
def hasEnding (path : Path) : Bool :=
  Text.lower path.suffix = ending

/-- The documents below a folder, sorted; below what is no folder there are none. -/
def below (tree : FileTree) (folder : Path) : List Path :=
  match tree.resolve folder with
  | .ok place =>
    if tree.isFolder folder then
      let found := (tree.below place).filterMap (fun (parts, node) =>
        match node with
        | .file _ _ => if hasEnding (folder.append parts) then some (folder.append parts) else none
        | .folder => none)
      sortBy Path.le found
    else []
  | .error _ => []

/-- The paths that spell no place for the second time. -/
def distinct (current : String) (paths : List Path) : List Path :=
  ((paths.foldl (fun (seen : OrderedMap String Path) path =>
    let identity := Path.identity current path.text
    if seen.contains identity then seen else seen.insert identity path) .empty).entries).map
    Prod.snd

/-- The documents below some folders. -/
def ofFolders (tree : FileTree) (folders : List Path) : List Path :=
  distinct tree.currentText (folders.flatMap (below tree))

/-- Reports how many documents were found. -/
def foundEvent (folders documents : Nat) : Event :=
  ⟨.debug, "annotation_files_enumerated", [("folders", .int folders), ("files", .int documents)]⟩

/-- Finds the documents below some folders. -/
def find (folders : List Path) : Job (List Path) := do
  let documents := ofFolders (← Job.tree) folders
  Job.report (foundEvent folders.length documents.length)
  return documents

end Nullability.Documents
