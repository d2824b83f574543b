import Nullability.Path

/-!
# File changes

What is told to those who watch a file. After a renaming the path is the new one, and the file that
was watched is the one under the old path.
-/

namespace Nullability

/-- What happened to a file. -/
inductive FileChange.Kind where
  | changed
  | created
  | deleted
  | renamed
  deriving DecidableEq, Repr, Inhabited

/-- Something that happened to a file. -/
structure FileChange where
  kind : FileChange.Kind
  path : Path
  /-- Where a renamed file was before. -/
  oldPath : Option Path
  deriving DecidableEq, Repr, Inhabited

namespace FileChange

/-- The name of a kind of change. -/
def Kind.name : Kind → String
  | changed => "changed"
  | created => "created"
  | deleted => "deleted"
  | renamed => "renamed"

/-- The old path of a renamed file cannot be used. -/
def badRenaming (oldPath : Option Path) : Failure :=
  .fault (.unexpected "failed to extract directory from renamed path"
    [("path", .text ((oldPath.map Path.text).getD "None"))])

/-- The path of the file that was watched. The old path of a renamed file must lie in a folder. -/
def watchedPath (change : FileChange) : Except Failure Path :=
  match change.kind, change.oldPath with
  | .renamed, some path =>
    if path.parent = path then .error (badRenaming (some path)) else .ok path
  | .renamed, none => .error (badRenaming none)
  | _, _ => .ok change.path

end FileChange

end Nullability
