import Nullability.Failure
import Nullability.Text.Digits
import Nullability.Text.Split

/-!
# Package versions

A package version is the name of a folder: two to four numbers with a point between two of them.
Each number is a run of decimal digits of any script. Versions are ordered number by number.
-/

namespace Nullability

/-- The numbers of a version, the most significant first. -/
abbrev PackageVersion := List Nat

namespace PackageVersion

/-- The longest run of digits that is read as a number. -/
def digitLimit : Nat := 4300

/-- Whether a component is a non-empty run of decimal digits. -/
def isNumeral (component : String) : Bool :=
  !component.isEmpty && component.toList.all Text.isDecimal

/-- The number that a run of digits writes; one that is too long is refused. -/
def number (component : String) : Except Failure Nat :=
  if digitLimit < component.length then .error .badValue
  else .ok (Text.decimalNumber component.toList)

/-- The version that a name writes, if it writes one. -/
def ofName (name : String) : Except Failure (Option PackageVersion) :=
  let components := Text.split '.' name
  if 2 ≤ components.length ∧ components.length ≤ 4 ∧ components.all isNumeral then
    (components.mapM number).map some
  else .ok none

/-- The name of a version in ASCII digits. -/
def render (version : PackageVersion) : String :=
  Text.join '.' (version.map toString)

/-- Whether one version is no later than another: numbers are compared from the first on, and a
version is before its continuations. -/
def le : PackageVersion → PackageVersion → Bool
  | [], _ => true
  | _ :: _, [] => false
  | a :: as, b :: bs => a < b || (a == b && le as bs)

end PackageVersion

end Nullability
