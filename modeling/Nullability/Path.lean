import Nullability.Failure
import Nullability.Text.Split

/-!
# Paths

A path is a way of spelling a place: where it starts, and the components that follow. Empty and
single-dot components are dropped when a path is read; a double dot is a component like any other.
Two spellings of one place are told to be the same by their identity, in which double dots are
folded against what stands before them.
-/

namespace Nullability

/-- Where a path starts. Exactly two slashes are a start of their own. -/
inductive Path.Anchor where
  | relative
  | root
  | doubleRoot
  deriving DecidableEq, Repr, Inhabited

/-- A path as it is spelled. -/
structure Path where
  anchor : Path.Anchor
  parts : List String
  deriving DecidableEq, Repr, Inhabited

namespace Path

/-- Where a text with these characters starts. -/
def anchorOf : List Char → Anchor
  | '/' :: '/' :: '/' :: _ => .root
  | '/' :: '/' :: _ => .doubleRoot
  | '/' :: _ => .root
  | _ => .relative

/-- The slashes at the start of a path. -/
def Anchor.text : Anchor → String
  | .relative => ""
  | .root => "/"
  | .doubleRoot => "//"

/-- The path that a text spells. -/
def ofText (s : String) : Path :=
  ⟨anchorOf s.toList, (Text.split '/' s).filter (fun part => part ≠ "" && part ≠ ".")⟩

/-- The text of a path; without a start and without components it is a dot. -/
def text (path : Path) : String :=
  if path.anchor = .relative ∧ path.parts = [] then "."
  else path.anchor.text ++ Text.join '/' path.parts

/-- Whether a path says where it starts. -/
def isAbsolute (path : Path) : Bool :=
  path.anchor ≠ .relative

/-- Whether there is a null character in a path. No operation takes such a path. -/
def hasNull (path : Path) : Bool :=
  path.parts.any (fun part => part.toList.contains '\x00')

/-- The last component, or an empty text. -/
def name (path : Path) : String :=
  path.parts.getLast?.getD ""

/-- The path without its last component; a path without components is its own parent. -/
def parent (path : Path) : Path :=
  ⟨path.anchor, path.parts.dropLast⟩

/-- A path with further components. -/
def append (path : Path) (parts : List String) : Path :=
  ⟨path.anchor, path.parts ++ parts⟩

/-- A path below another one; an absolute path stays as it is. -/
def join (base path : Path) : Path :=
  if path.isAbsolute then path else base.append path.parts

/-- A name cut at its last point. The point counts only if it is neither the first nor the last
character; without one the second part is empty. -/
def splitSuffix (name : String) : String × String :=
  let reversed := name.toList.reverse
  let after := reversed.takeWhile (fun c => c ≠ '.')
  match reversed.dropWhile (fun c => c ≠ '.') with
  | '.' :: before =>
    if before.isEmpty ∨ after.isEmpty then (name, "")
    else (String.ofList before.reverse, String.ofList ('.' :: after.reverse))
  | _ => (name, "")

/-- The last component from its last point on. -/
def suffix (path : Path) : String :=
  (splitSuffix path.name).2

/-- The last component up to its last point. -/
def stem (path : Path) : String :=
  (splitSuffix path.name).1

/-- The path with another last component. A path without components has none to replace. -/
def withName (path : Path) (name : String) : Except Failure Path :=
  if path.parts = [] then .error .badValue else .ok (path.parent.append [name])

/-- Whether a list of components comes no later than another one, compared component by
component. -/
def lePart : List String → List String → Bool
  | [], _ => true
  | _ :: _, [] => false
  | a :: as, b :: bs => a < b || (a == b && lePart as bs)

/-- Whether a path comes no later than another one. -/
def le (a b : Path) : Bool :=
  lePart a.parts b.parts

/-! ## Identity -/

/-- Folds a component into the ones before it, which are kept newest first: a double dot takes the
last one away. -/
def foldPart (done : List String) (part : String) : List String :=
  if part = "" ∨ part = "." then done
  else if part = ".." then done.tail
  else part :: done

/-- Components with double dots folded; above the root there is nothing. -/
def foldParts (parts : List String) : List String :=
  (parts.foldl foldPart []).reverse

/-- The absolute text of the place that a text spells, seen from a current folder. -/
def absoluteText (current : String) (s : String) : String :=
  if s.toList.head? = some '/' then s
  else if current.toList.getLast? = some '/' then current ++ s
  else current ++ "/" ++ s

/-- The identity of the place that a text spells, seen from a current folder: an absolute text
without empty, single-dot and double-dot components. -/
def identity (current : String) (s : String) : String :=
  let absolute := absoluteText current s
  (anchorOf absolute.toList).text ++ Text.join '/' (foldParts (Text.split '/' absolute))

/-! ## Home folders -/

/-- Whether a path starts with a home folder. -/
def startsAtHome (path : Path) : Bool :=
  path.anchor = .relative && (path.parts.head?.any (fun part => part.toList.head? = some '~'))

/-- Replaces a home folder at the start of a path: a lone tilde by the user's own, if it is known,
and a tilde with a name by that of the account, if there is one. A home folder that starts with a
tilde itself is none, and a name with a null character is not even looked for. -/
def expandHome (home : Option String) (accounts : List (String × String)) (path : Path) :
    Except Failure Path :=
  match path.parts with
  | first :: rest =>
    if !path.startsAtHome then .ok path
    else if first.toList.contains '\x00' then .error .badValue
    else
      let folder : Option String :=
        if first = "~" then home
        else (accounts.find? (fun account => "~" ++ account.1 = first)).map Prod.snd
      match folder with
      | none => .error .noHome
      | some folder =>
        let trimmed := String.ofList (folder.toList.reverse.dropWhile (fun c => c = '/')).reverse
        let folder := if trimmed.isEmpty then "/" else trimmed
        if folder.toList.head? = some '~' then .error .noHome
        else .ok ((Path.ofText folder).append rest)
  | [] => .ok path

end Path

end Nullability
