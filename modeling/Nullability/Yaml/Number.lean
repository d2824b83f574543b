import Nullability.Binary64
import Nullability.Text.Blank
import Nullability.Text.Digits
import Nullability.Yaml.Cursor

/-!
# Numbers in YAML

Integers are written in base two, eight, ten or sixteen, or in groups of base sixty; numbers with a
point in base ten or in groups of base sixty. Underscores between digits do not count. A node with
an explicit tag may hold any text, which is read as freely as texts of numbers usually are.
-/

namespace Nullability.Yaml.Number

/-- A text without its underscores. -/
def withoutUnderscores (s : String) : List Char :=
  s.toList.filter (fun c => c ≠ '_')

/-- Whether a text is negative, and the rest behind its sign. -/
def splitSign : List Char → Bool × List Char
  | '-' :: rest => (true, rest)
  | '+' :: rest => (false, rest)
  | cs => (false, cs)

/-- The value of a character as a digit: a decimal digit of any script, or a Latin letter. -/
def digitValue? (c : Char) : Option Nat :=
  match Text.decimalValue? c with
  | some n => some n
  | none =>
    if c.isLower then some (c.toNat - 87)
    else if c.isUpper then some (c.toNat - 55)
    else none

/-- The number that digits of a base write; there must be at least one. -/
def digitsNumber (base : Nat) (digits : List Char) : Except Refusal Nat :=
  let value? := digits.foldlM (fun n c =>
    match digitValue? c with
    | some d => if d < base then some (base * n + d) else none
    | none => none) 0
  if digits.isEmpty ∨ (base = 10 ∧ digitLimit < digits.length) then .error .badValue
  else
    match value? with
    | some n => .ok n
    | none => .error .badValue

/-- The number with a sign that a text in some base writes; blanks around it do not count. -/
def integerText (base : Nat) (cs : List Char) : Except Refusal Int := do
  let (negative, digits) := splitSign (Text.trimBlank cs)
  let n ← digitsNumber base digits
  return if negative then -n else n

/-- The parts of a text between colons. -/
def colonParts : List Char → List (List Char)
  | [] => [[]]
  | c :: rest =>
    if c = ':' then [] :: colonParts rest
    else
      match colonParts rest with
      | first :: more => (c :: first) :: more
      | [] => [[c]]

/-- The integer that a text without its sign writes. -/
def unsignedInteger (cs : List Char) : Except Refusal Int :=
  match cs with
  | [] => .error .nothingWritten
  | ['0'] => .ok 0
  | '0' :: 'b' :: digits => integerText 2 digits
  | '0' :: 'x' :: digits => integerText 16 digits
  | '0' :: 'o' :: digits => integerText 8 digits
  | '0' :: _ => integerText 8 cs
  | _ =>
    if cs.contains ':' then do
      let groups ← (colonParts cs).mapM (integerText 10)
      return groups.foldl (fun n group => 60 * n + group) 0
    else integerText 10 cs

/-- The integer that a text writes. -/
def integer (s : String) : Except Refusal Int :=
  match withoutUnderscores s with
  | [] => .error .nothingWritten
  | cs => do
    let (negative, digits) := splitSign cs
    let n ← unsignedInteger digits
    return if negative then -n else n

/-! ## Numbers with a point -/

/-- The exponent at the end of a number. -/
def exponent? (cs : List Char) : Option Int :=
  match cs with
  | [] => some 0
  | e :: rest =>
    let (negative, digits) := splitSign rest
    if (e = 'e' ∨ e = 'E') ∧ !digits.isEmpty ∧ digits.all (fun c => c.isDigit) then
      let n : Int := Text.decimalNumber digits
      some (if negative then -n else n)
    else none

/-- The number that a text in base ten writes, with a point or without. -/
def decimal? (negative : Bool) (cs : List Char) : Option Binary64 := do
  let whole := cs.takeWhile Char.isDigit
  let rest := cs.dropWhile Char.isDigit
  let (fraction, rest) := match rest with
    | '.' :: after => (after.takeWhile Char.isDigit, after.dropWhile Char.isDigit)
    | _ => ([], rest)
  let exponent ← exponent? rest
  if whole.isEmpty ∧ fraction.isEmpty then none
  else
    some (Binary64.ofDecimal negative (Text.decimalNumber (whole ++ fraction))
      (exponent - fraction.length))

/-- The number that a text writes, in base ten or by name; blanks around it do not count. -/
def realText (cs : List Char) : Except Refusal Binary64 :=
  let (negative, unsigned) := splitSign (Text.trimBlank cs)
  let name := String.ofList (unsigned.map Char.toLower)
  if name = "inf" ∨ name = "infinity" then .ok (.infinite negative)
  else if name = "nan" then .ok .nan
  else
    match decimal? negative unsigned with
    | some x => .ok x
    | none => .error .badValue

/-- The sum of groups, the last one first, each counting sixty times as much as the one before. A
unit that is beyond all numbers is refused, whatever its group is. -/
def sumGroups : (unit : Nat) → List Binary64 → (sum : Binary64) → Except Refusal Binary64
  | _, [], sum => .ok sum
  | unit, group :: rest, sum =>
    match Binary64.ofInt unit with
    | .infinite _ => .error .tooLarge
    | factor => sumGroups (60 * unit) rest (sum.add (group.mul factor))

/-- The number that a text without its sign writes. -/
def unsignedReal (cs : List Char) : Except Refusal Binary64 :=
  if cs = ['.', 'i', 'n', 'f'] then .ok (.infinite false)
  else if cs = ['.', 'n', 'a', 'n'] then .ok .nan
  else if cs.contains ':' then do
    let groups ← (colonParts cs).mapM realText
    sumGroups 1 groups.reverse (Binary64.ofInt 0)
  else realText cs

/-- The number that a text writes. -/
def real (s : String) : Except Refusal Binary64 :=
  match withoutUnderscores s with
  | [] => .error .nothingWritten
  | cs => do
    let (negative, digits) := splitSign cs
    let x ← unsignedReal (digits.map Char.toLower)
    return if negative then x.neg else x

end Nullability.Yaml.Number
