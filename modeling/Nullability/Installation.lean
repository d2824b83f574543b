import Nullability.FileTree
import Nullability.PackageVersion
import Nullability.Settings
import Nullability.Sorting

/-!
# Installations

Annotation documents are installed in two ways. A platform has its own folder, named by a fixed start
and a version of two digits, below the root for all users or below that for one user; in it are up to
two folders with annotations, one of each category. A package has a folder named by its version.
Folders are scanned by category, then by scope, then by version; where all three agree, in the order
in which they were found. Below a root that is missing nothing is installed, but a root whose path
has a null character stops the search.
-/

namespace Nullability

/-- What a folder of annotations belongs to. -/
inductive Category where
  | annotations
  | extensions
  deriving DecidableEq, Repr, Inhabited

/-- For whom annotations are installed. -/
inductive Scope where
  | system
  | user
  | package
  deriving DecidableEq, Repr, Inhabited

namespace Category

/-- The categories in the order in which they are scanned. -/
def all : List Category := [.annotations, .extensions]

/-- The place of a category in that order. -/
def rank : Category → Nat
  | annotations => 0
  | extensions => 1

/-- The name of a category's folder. -/
def folder : Category → String
  | annotations => "ExternalAnnotations"
  | extensions => "Extensions"

end Category

/-- The place of a scope in the order in which they are scanned. -/
def Scope.rank : Scope → Nat
  | system => 0
  | user => 1
  | package => 2

/-- A folder of annotations that is installed. -/
structure Installation where
  scope : Scope
  category : Category
  version : PackageVersion
  path : Path
  deriving DecidableEq, Repr, Inhabited

namespace Installation

/-- The folders between a root and those of the platforms. -/
def platformParts : List String := ["JetBrains", "Installations"]

/-- The folders inside that of a package. -/
def packageParts : List String := ["DotFiles", "ExternalAnnotations"]

/-! ## Folders -/

/-- The names of the folders directly inside a folder, sorted; a folder that is missing has none. -/
def subfolders (tree : FileTree) (folder : Path) : Except Failure (List String) :=
  match tree.resolve folder with
  | .ok place =>
    .ok (sortBy (fun a b => a ≤ b)
      ((tree.names place).filter (fun name => tree.isFolder (folder.append [name]))))
  | .error failure => if failure.isFileSystem then .ok [] else .error failure

/-- The version in the name of a platform's folder: two digits behind the fixed start. -/
def platformVersion? (start name : String) : Option Nat :=
  let cs := name.toList
  if start.toList.isPrefixOf cs then
    match (cs.drop start.length).take 2 with
    | [a, b] =>
      if Text.isDecimal a && Text.isDecimal b then some (Text.decimalNumber [a, b]) else none
    | _ => none
  else none

/-- The folders of one category for the platforms below a root. -/
def platforms (tree : FileTree) (settings : ScannerSettings) (root : String) (scope : Scope)
    (category : Category) : Except Failure (List Installation) := do
  let folder := (Path.ofText root).append platformParts
  let names ← subfolders tree folder
  return names.filterMap (fun name =>
    let path := folder.append [name, category.folder]
    match platformVersion? settings.folderStart name with
    | some version =>
      if settings.leastVersion ≤ version ∧ tree.isFolder path then
        some ⟨scope, category, [version, 0], path⟩
      else none
    | none => none)

/-- The folders of the packages. -/
def packages (tree : FileTree) (root : String) : Except Failure (List Installation) := do
  let folder := Path.ofText root
  let names ← subfolders tree folder
  let found ← names.mapM (fun name => do
    let path := folder.append (name :: packageParts)
    match ← PackageVersion.ofName name with
    | some version =>
      return if tree.isFolder path then some ⟨.package, .annotations, version, path⟩ else none
    | none => return none)
  return found.filterMap id

/-- All installed folders, in the order in which they are found. -/
def all (tree : FileTree) (locations : Locations) (settings : ScannerSettings) :
    Except Failure (List Installation) := do
  let ofRoot := fun (root : String) (scope : Scope) =>
    (Category.all.mapM (platforms tree settings root scope)).map List.flatten
  let system ← ofRoot locations.systemRoot .system
  let user ← ofRoot locations.userRoot .user
  let packages ←
    if settings.includePackages then packages tree locations.packageRoot else .ok []
  return system ++ user ++ packages

/-- Whether a folder is scanned no later than another one. -/
def le (a b : Installation) : Bool :=
  a.category.rank < b.category.rank ||
    (a.category.rank == b.category.rank &&
      (a.scope.rank < b.scope.rank ||
        (a.scope.rank == b.scope.rank && PackageVersion.le a.version b.version)))

/-- The installed folders in the order in which they are scanned. -/
def foldersToScan (tree : FileTree) (locations : Locations) (settings : ScannerSettings) :
    Except Failure (List Path) :=
  (all tree locations settings).map (fun found => (sortBy le found).map Installation.path)

/-! ## Patterns -/

/-- The patterns that the folders of the platforms below a root match, where a question mark stands
for a character. The start of their names is read as a path of its own. -/
def platformPatterns (settings : ScannerSettings) (root : String) : List String :=
  let folder := (Path.ofText root).append platformParts
  let platform := folder.join (Path.ofText (settings.folderStart ++ "??"))
  Category.all.map (fun category => (platform.append [category.folder]).text)

/-- The patterns of all places that are looked at, where an asterisk stands for a name. -/
def patterns (locations : Locations) (settings : ScannerSettings) : List String :=
  platformPatterns settings locations.systemRoot ++
    (if settings.includePackages then
      [((Path.ofText locations.packageRoot).append ("*" :: packageParts)).text]
    else []) ++
    platformPatterns settings locations.userRoot

end Installation

end Nullability
