import Nullability.OrderedMap
import Nullability.Path

/-!
# Environments

What the surroundings of a program tell it: variables with texts, and the home folders of the
accounts, among them the account that the program runs under.
-/

namespace Nullability

/-- The texts of a program's variables, and the home folders of accounts, by name. -/
structure Environment where
  texts : OrderedMap String String
  accounts : List (String × String)
  /-- The home folder of the account that the program runs under, if the account is known. -/
  ownHome : Option String := none
  deriving Inhabited

namespace Environment

/-- The text of a variable unless it is empty. -/
def filled? (env : Environment) (name : String) : Option String :=
  match env.texts.get? name with
  | some text => if text.isEmpty then none else some text
  | none => none

/-- The home folder of the user: that of a variable, or else that of the account. -/
def home? (env : Environment) : Option String :=
  (env.texts.get? "HOME").or env.ownHome

/-- A path with its home folder written out. -/
def expand (env : Environment) (path : Path) : Except Failure Path :=
  path.expandHome env.home? env.accounts

/-- The text of a path with its home folder written out. -/
def expandText (env : Environment) (text : String) : Except Failure String :=
  (env.expand (Path.ofText text)).map Path.text

end Environment

end Nullability
