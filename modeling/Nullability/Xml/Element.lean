/-!
# Elements

The tree of a document as its readers see it: elements with their attributes and the elements
directly inside them. Text between elements carries no facts and is not kept.
-/

namespace Nullability.Xml

/-- An element with its attributes and the elements directly inside it, in document order. -/
structure Element where
  tag : String
  attributes : List (String × String)
  children : List Element
  deriving Inhabited

namespace Element

/-- The value of an attribute. -/
def get? (element : Element) (name : String) : Option String :=
  (element.attributes.find? (fun entry => entry.1 = name)).map Prod.snd

/-- The elements directly inside one that have the given tag. -/
def childrenTagged (element : Element) (tag : String) : List Element :=
  element.children.filter (fun child => child.tag = tag)

end Element

end Nullability.Xml
