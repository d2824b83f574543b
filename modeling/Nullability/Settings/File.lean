import Nullability.FileTree
import Nullability.Settings.Layers
import Nullability.Text.Utf8
import Nullability.Yaml.Document

/-!
# Settings files

A settings file is a YAML document that is a mapping, or nothing at all. It is read part by part down
to the fields of its sections, and to those of the outputs of the log. What is in a field is read as
a whole, and in it a collection inside itself is cut off.

Where another file has a mapping at the same place, the entries of both are to be merged, and so the
mapping is read part by part there as well. Two documents that contain themselves may have mappings
at the same places without end; then they cannot be merged.
-/

namespace Nullability.Settings

/-- The failure of a refused settings file. -/
def refusedFile (path : Path) : Yaml.Refusal → Failure
  | .malformed => .fault (.settingsUnreadable path.text "<yaml error>")
  | .badValue => .badValue
  | .unknownWord => .noEntry
  | .nothingWritten => .outOfBounds
  | .noMoment => .missingPart
  | .tooLarge => .outOfRange
  | .noText => .badType
  | .endless => .endless

/-- The document that the content of a settings file holds. -/
def documentOfContent (path : Path) (content : List UInt8) : Except Failure Yaml.Document :=
  match Text.ofUtf8? content with
  | none => .error .undecodable
  | some text =>
    match Yaml.read text with
    | .error refusal => .error (refusedFile path refusal)
    | .ok document =>
      match document.root, document.entries? document.root with
      | .value .null, _ | _, some _ => .ok document
      | _, none =>
        .error (.fault (.settingsUnreadable path.text "top-level value must be a mapping"))

/-- The document in a settings file; a missing one holds nothing. -/
def documentOfFile (tree : FileTree) (path : Path) : Except Failure Yaml.Document := do
  if ← tree.asksFile path then documentOfContent path (← tree.read path)
  else return ⟨[], .value .null⟩

/-! ## Parts of a file -/

/-- What stands at a place of a settings file. -/
inductive Role where
  | settings
  | log
  | outputs
  | output
  | part
  | field
  deriving DecidableEq, Repr, Inhabited

namespace Role

/-- What stands under a key of a mapping. -/
def ofKey (role : Role) (key : Value) : Role :=
  match role, key with
  | settings, .text name =>
    if name = "logging" then log else if sectionKeys.contains name then part else field
  | log, .text name => if name = "outputs" then outputs else field
  | _, _ => field

/-- What the items of a list are. -/
def ofItems : Role → Role
  | outputs => output
  | _ => field

/-- Whether a mapping is read part by part. -/
def opensMapping : Role → Bool
  | settings | log | part | output => true
  | outputs | field => false

/-- Whether a list is read part by part. -/
def opensList : Role → Bool
  | outputs => true
  | _ => false

end Role

/-- What an item may have under a key. -/
def under? (d : Yaml.Document) (key : Value) (item : Yaml.Item) : Option Yaml.Item :=
  (d.entries? item).bind (Value.lookup? key)

/-- The value of an item with some role, beside an item that another document may have at the same
place; `fuel` bounds how deep it is read part by part. -/
def valueBeside (d other : Yaml.Document) :
    (fuel : Nat) → Role → (beside : Option Yaml.Item) → Yaml.Item → Value
  | 0, _, _, item => d.value item
  | fuel + 1, role, beside, item =>
    let isMerged := (beside.bind other.entries?).isSome
    match d.entries? item, d.items? item with
    | some entries, _ =>
      if role.opensMapping || isMerged then
        .mapping (entries.map (fun (key, inner) =>
          (key, valueBeside d other fuel (role.ofKey key) (beside.bind (under? other key)) inner)))
      else d.value item
    | none, some items =>
      if role.opensList then .list (items.map (valueBeside d other fuel role.ofItems none))
      else d.value item
    | none, none => d.value item

/-- The number of steps after which two documents with mappings at the same places come to a pair of
mappings once more. -/
def meetingBound (lower upper : Yaml.Document) : Nat :=
  lower.collections.length * upper.collections.length

/-- The entries of a document beside another one; nothing has none. -/
def entriesBeside (d other : Yaml.Document) : List (Value × Value) :=
  match valueBeside d other (meetingBound d other + 4) .settings (some other.root) d.root with
  | .mapping entries => entries
  | _ => []

/-- The entries of a document alone. -/
def entriesOf (d : Yaml.Document) : List (Value × Value) :=
  entriesBeside d ⟨[], .value .null⟩

/-- The entries in a settings file. -/
def entriesOfFile (tree : FileTree) (path : Path) : Except Failure (List (Value × Value)) :=
  (documentOfFile tree path).map entriesOf

/-! ## Merging files -/

/-- Whether two items are mappings, and so are, a number of times, the items under a key of both. -/
def meet (lower upper : Yaml.Document) : (times : Nat) → (a b : Yaml.Item) → Bool
  | times, a, b =>
    match lower.entries? a, upper.entries? b with
    | some entries, some others =>
      match times with
      | 0 => true
      | times + 1 =>
        others.any (fun (key, inner) =>
          (Value.lookup? key entries).any (fun under => meet lower upper times under inner))
    | _, _ => false

/-- The entries of two documents, those of the upper one merged over those of the lower one. -/
def mergedDocuments (lower upper : Yaml.Document) : Except Failure (List (Value × Value)) :=
  if meet lower upper (meetingBound lower upper) lower.root upper.root then .error .endless
  else .ok (Value.mergeEntries (entriesBeside lower upper) (entriesBeside upper lower))

end Nullability.Settings
