import Nullability.Yaml.Cursor

/-!
# Tokens of YAML

What a text consists of: the brackets of collections, those that are written and those that follow
from the layout, the marks of entries, keys and values, and scalars with what decorates them.
-/

namespace Nullability.Yaml

/-- An instruction in front of a document. -/
inductive Directive where
  | version (major minor : Nat)
  | tagHandle (handle start : String)
  | unknown
  deriving DecidableEq, Repr, Inhabited

/-- One token. The starts and ends of block collections follow from the layout. -/
inductive Token where
  | directive (directive : Directive)
  | documentStart
  | documentEnd
  | textEnd
  | blockSequenceStart
  | blockMappingStart
  | blockEnd
  | flowSequenceStart
  | flowSequenceEnd
  | flowMappingStart
  | flowMappingEnd
  | blockEntry
  | flowEntry
  | key
  | value
  | reference (anchor : String)
  | anchor (name : String)
  | tag (handle : Option String) (ending : String)
  /-- A scalar; only a plain one may stand for something else than a text. -/
  | scalar (text : String) (isPlain : Bool)
  deriving DecidableEq, Repr, Inhabited

end Nullability.Yaml
