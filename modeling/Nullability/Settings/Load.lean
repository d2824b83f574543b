import Nullability.Settings.File
import Nullability.Settings.Variables

/-!
# Loading settings

Settings come, from the lowest layer to the highest, from the defaults, a file for all programs, a
file named by the caller, the environment, and the caller's own values. The two files are merged key
by key before the other layers are laid over them. A file for all programs may be missing, the other
one must be there if it is named.
-/

namespace Nullability.Settings

/-- The pairs of the file for all programs with those of the named file merged over them. -/
def entriesOfFiles (tree : FileTree) (common : Path) (named : Option Path) :
    Except Failure (List (Value × Value)) := do
  let lower ← documentOfFile tree common
  match named with
  | none => return entriesOf lower
  | some path =>
    if ← tree.asksFile path then mergedDocuments lower (← documentOfFile tree path)
    else .error (.fault (.settingsMissing path.text))

/-- The settings of all layers; `given` are the caller's own values. -/
def load (env : Environment) (tree : FileTree) (common : Path) (named : Option Path)
    (given : Layer) : Except Failure Settings := do
  let files ← entriesOfFiles tree common named
  let surroundings ← variableLayer env
  ofLayers env (((Layer.ofEntries files).overlay surroundings).overlay given)

end Nullability.Settings
