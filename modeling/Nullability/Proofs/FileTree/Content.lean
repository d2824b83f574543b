import Nullability.FileTree
import Nullability.Proofs.Outcome

/-!
# Contents of trees

What a path is read as is the content at the place that it leads to.
-/

namespace Nullability.FileTree

/-- The content of the file at a place, if there is a file. -/
def contentAt (tree : FileTree) (place : Place) : Option (List UInt8) :=
  match tree.at? place with
  | some (.file content _) => some content
  | _ => none

/-- A place with a content is no folder. -/
lemma ne_of_contentAt {tree : FileTree} {place folder : Place} {content : List UInt8}
    (h : tree.contentAt place = some content) (hfolder : tree.at? folder = some .folder) :
    place ≠ folder := by
  intro e
  rw [e, contentAt, hfolder] at h
  cases h

/-- The root is a folder. -/
@[simp]
lemma at?_nil {tree : FileTree} : tree.at? [] = some .folder :=
  if_pos rfl

/-- A path leads somewhere if it has no null character and its components can be followed. -/
lemma resolve_eq_ok_iff {tree : FileTree} {path : Path} {place : Place} :
    tree.resolve path = .ok place ↔
      path.hasNull = false ∧ path.parts.foldlM tree.step (tree.start path) = .ok place := by
  rw [resolve]
  split
  · rename_i hnull
    simp [hnull]
  · rename_i hnull
    simp [hnull]

lemma resolve_of_hasNull {tree : FileTree} {path : Path} (h : path.hasNull = true) :
    tree.resolve path = .error .badValue :=
  if_pos h

lemma hasNull_of_resolve {tree : FileTree} {path : Path} {place : Place}
    (h : tree.resolve path = .ok place) : path.hasNull = false :=
  (resolve_eq_ok_iff.1 h).1

/-- A component can be followed where a folder is, and then come the others. -/
lemma foldlM_step_cons_iff {tree : FileTree} {start place : Place} {part : String}
    {rest : List String} :
    (part :: rest).foldlM tree.step start = .ok place ↔ tree.at? start = some .folder ∧
      rest.foldlM tree.step (if part = ".." then start.dropLast else start ++ [part]) =
        .ok place := by
  rw [List.foldlM_cons, step]
  cases hnode : tree.at? start with
  | none => simp [bind, Except.bind]
  | some node =>
    cases node with
    | folder => simp [bind, Except.bind]
    | file content modified => simp [bind, Except.bind]

/-- A path leads to a file if there is one at its place. -/
lemma file_eq_ok_iff {tree : FileTree} {path : Path} {content : List UInt8} {modified : Int} :
    tree.file path = .ok (content, modified) ↔
      ∃ place, tree.resolve path = .ok place ∧ tree.at? place = some (.file content modified) := by
  rw [file]
  cases hplace : tree.resolve path with
  | error failure => simp [bind, Except.bind]
  | ok place =>
    cases hnode : tree.at? place with
    | none => simp [bind, Except.bind, hnode]
    | some node =>
      cases node with
      | folder => simp [bind, Except.bind, hnode]
      | file c m => simp [bind, Except.bind, hnode, pure, Except.pure]

/-- Where the system tells, the answer is what the tree is like. -/
lemma asksFile_eq_ok {tree : FileTree} {path : Path} {answer : Bool} :
    tree.asksFile path = .ok answer ↔ tree.denial? path = none ∧ tree.isFile path = answer := by
  rw [asksFile]
  cases tree.denial? path with
  | some denial => simp
  | none => simp

lemma asksFile_eq_error {tree : FileTree} {path : Path} {failure : Failure} :
    tree.asksFile path = .error failure ↔
      ∃ denial, tree.denial? path = some denial ∧ denial.failure = failure := by
  rw [asksFile]
  cases tree.denial? path with
  | some denial => simp
  | none => simp

/-- What is read is a file. -/
lemma isFile_of_read {tree : FileTree} {path : Path} {bytes : List UInt8}
    (h : tree.read path = .ok bytes) : tree.isFile path = true := by
  obtain ⟨⟨content, modified⟩, hfile, -⟩ := Outcome.map_eq_ok.1 h
  obtain ⟨place, hplace, hnode⟩ := file_eq_ok_iff.1 hfile
  rw [isFile, node?, hplace]
  simp only [hnode]

/-- A path to a file leads to a place with a content. -/
lemma exists_contentAt_of_isFile {tree : FileTree} {path : Path}
    (h : tree.isFile path = true) :
    ∃ place content, tree.resolve path = .ok place ∧ tree.contentAt place = some content := by
  rw [isFile, node?] at h
  cases hplace : tree.resolve path with
  | error failure => simp [hplace] at h
  | ok place =>
    rw [hplace] at h
    change (match tree.at? place with
      | some (.file _ _) => true
      | _ => false) = true at h
    split at h
    · rename_i content modified hnode
      exact ⟨place, content, rfl, by rw [contentAt, hnode]⟩
    · cases h

/-- The content at the place that a path leads to is what is read. -/
lemma read_of_contentAt {tree : FileTree} {path : Path} {place : Place} {content : List UInt8}
    (hplace : tree.resolve path = .ok place) (h : tree.contentAt place = some content) :
    tree.read path = .ok content := by
  rw [contentAt] at h
  split at h
  · rename_i c modified hnode
    obtain rfl := Option.some.inj h
    rw [read, file_eq_ok_iff.2 ⟨place, hplace, hnode⟩]
    rfl
  · cases h

end Nullability.FileTree
