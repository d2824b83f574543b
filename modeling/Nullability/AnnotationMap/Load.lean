import Nullability.AnnotationMap.Merge
import Nullability.Failure
import Nullability.Xml.Content

/-!
# Loading documents

A document's bytes are read into elements and merged into a map. A document that cannot be read
leaves the map as it was; one that lacks an attribute leaves what stands before that place.
-/

namespace Nullability.AnnotationMap

/-- The failure of a refused document; `source` names it. -/
def refused (source : String) : Xml.Refusal → Failure
  | .malformed => .fault (.documentMalformed source "<xml error>")
  | .unknownEncoding => .unknownName
  | .multiByteEncoding => .badValue
  | .undecodable => .badEncoding
  | .labelEncoding => .undecodable

/-- Merges the document that some bytes hold; `source` names it in failures. -/
def loadDocument (m : AnnotationMap) (source : String) (bytes : List UInt8) :
    AnnotationMap × Option Failure :=
  match Xml.Element.ofBytes bytes with
  | .error refusal => (m, some (refused source refusal))
  | .ok root =>
    let (merged, missing) := m.mergeDocument root
    (merged, missing.map (fun a => .fault (.attributeMissing source a.element a.name)))

end Nullability.AnnotationMap
