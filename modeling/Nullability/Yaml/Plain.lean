import Nullability.Text.LetterCase
import Nullability.Value
import Nullability.Yaml.Node
import Nullability.Yaml.Number

/-!
# What scalars stand for

A plain scalar without a tag stands for nothing, a truth value, a number or a point in time if its
text has the form of one, and for its text otherwise. The forms are regular; each is checked by a
function that reads the text from the front.
-/

namespace Nullability.Yaml

/-! ## Forms of texts -/

namespace Form

/-- The ASCII digits at the start of a text and the rest. -/
def digits (cs : List Char) : List Char × List Char :=
  (cs.takeWhile Char.isDigit, cs.dropWhile Char.isDigit)

/-- Whether a text is a run of characters that satisfy a test, with at least one of them. -/
def isRun (p : Char → Bool) (cs : List Char) : Bool :=
  !cs.isEmpty && cs.all p

/-- A decimal digit or an underscore. -/
def isGrouped (c : Char) : Bool := c.isDigit || c = '_'

/-- One or two digits of a group of base sixty. -/
def isSixtieth : List Char → Bool
  | [d] => d.isDigit
  | [t, d] => t.isDigit && t.toNat < 54 && d.isDigit
  | _ => false

/-- Whether a text has the form of an integer. -/
def isInteger (cs : List Char) : Bool :=
  match (Number.splitSign cs).2 with
  | ['0'] => true
  | '0' :: 'b' :: rest => isRun (fun c => c = '0' || c = '1' || c = '_') rest
  | '0' :: 'x' :: rest => isRun (fun c => (Text.hexDigit? c).isSome || c = '_') rest
  | '0' :: rest => isRun (fun c => ('0' ≤ c && c ≤ '7') || c = '_') rest
  | first :: rest =>
    '1' ≤ first && first ≤ '9' &&
      match Number.colonParts rest with
      | whole :: groups => whole.all isGrouped && groups.all isSixtieth
      | [] => false
  | [] => false

/-- Whether a text is empty or has the form of an exponent, whose sign must be there. -/
def isExponent (cs : List Char) : Bool :=
  match cs with
  | [] => true
  | e :: sign :: rest =>
    (e = 'e' || e = 'E') && (sign = '+' || sign = '-') && isRun Char.isDigit rest
  | _ => false

/-- Whether a text has the form of a number with a point. -/
def isReal (cs : List Char) : Bool :=
  let unsigned := (Number.splitSign cs).2
  let isSigned := unsigned.length ≠ cs.length
  match unsigned with
  | '.' :: rest =>
    let name := String.ofList rest
    ["inf", "Inf", "INF"].contains name ||
      (!isSigned && (["nan", "NaN", "NAN"].contains name ||
        (rest.head?.any Char.isDigit && isExponent (rest.dropWhile isGrouped))))
  | first :: rest =>
    first.isDigit &&
      match Number.colonParts (rest.takeWhile (fun c => c ≠ '.')), rest.dropWhile (· ≠ '.') with
      | [whole], '.' :: after => whole.all isGrouped && isExponent (after.dropWhile isGrouped)
      | whole :: groups, '.' :: after =>
        whole.all isGrouped && groups.all isSixtieth && after.all isGrouped
      | _, _ => false
  | [] => false

/-- The names of truth and falsehood. -/
def truthNames : List (String × Bool) :=
  [("yes", true), ("no", false), ("true", true), ("false", false), ("on", true), ("off", false)]

/-- A name with its first letter in upper case, and one wholly in upper case. -/
def capitals (name : String) : List String :=
  match name.toList with
  | [] => []
  | first :: rest =>
    [String.ofList (first.toUpper :: rest), String.ofList ((first :: rest).map Char.toUpper)]

/-- Whether a text is a name in lower case, in upper case or with a capital. -/
def isSpelling (name text : String) : Bool :=
  text = name || (capitals name).contains text

/-- Whether a text has the form of a truth value. -/
def isTruth (text : String) : Bool :=
  truthNames.any (fun entry => isSpelling entry.1 text)

end Form

/-! ## Points in time -/

/-- The parts of a text with the form of a point in time. -/
structure WrittenMoment where
  year : Nat
  month : Nat
  day : Nat
  /-- Hour, minute and second. -/
  time : Option (Nat × Nat × Nat)
  fraction : List Char
  /-- Sign, hours and minutes of the distance from universal time. -/
  offset : Option (Bool × Nat × Nat)
  deriving Inhabited

namespace WrittenMoment

/-- A number of between `least` and `most` digits at the start of a text. -/
def number? (least most : Nat) (cs : List Char) : Option (Nat × List Char) :=
  let digits := (cs.take most).takeWhile Char.isDigit
  if digits.length < least then none
  else some (Text.decimalNumber digits, cs.drop digits.length)

/-- The rest of a text behind a character. -/
def skip? (expected : Char) : List Char → Option (List Char)
  | c :: rest => if c = expected then some rest else none
  | [] => none

/-- The rest of a text behind blanks and tabs. -/
def skipSpaces (cs : List Char) : List Char :=
  cs.dropWhile (fun c => c = ' ' || c = '\t')

/-- The distance from universal time at the end of a text: nothing, a letter, or a sign with hours
and perhaps minutes. -/
def offset? (cs : List Char) : Option (Option (Bool × Nat × Nat)) :=
  match cs with
  | [] => some none
  | _ =>
    match skipSpaces cs with
    | ['Z'] => some (some (false, 0, 0))
    | sign :: rest =>
      if sign = '+' ∨ sign = '-' then do
        let (hours, rest) ← number? 1 2 rest
        match rest with
        | [] => return some (sign = '-', hours, 0)
        | ':' :: minutes =>
          let (minutes, rest) ← number? 2 2 minutes
          if rest.isEmpty then return some (sign = '-', hours, minutes) else none
        | _ => none
      else none
    | [] => none

/-- The time of day behind a day. -/
def time? (moment : WrittenMoment) (cs : List Char) : Option WrittenMoment := do
  let (hour, rest) ← number? 1 2 cs
  let (minute, rest) ← number? 2 2 (← skip? ':' rest)
  let (second, rest) ← number? 2 2 (← skip? ':' rest)
  let (fraction, rest) := match rest with
    | '.' :: after => Form.digits after
    | _ => ([], rest)
  let offset ← offset? rest
  return { moment with time := some (hour, minute, second), fraction := fraction, offset := offset }

/-- The parts of a text, if it has the form of a point in time. -/
def ofChars? (cs : List Char) : Option WrittenMoment := do
  let (year, rest) ← number? 4 4 cs
  let (month, rest) ← number? 1 2 (← skip? '-' rest)
  let (day, rest) ← number? 1 2 (← skip? '-' rest)
  let moment : WrittenMoment := ⟨year, month, day, none, [], none⟩
  match rest with
  | [] => return moment
  | c :: after =>
    if c = 'T' ∨ c = 't' then time? moment after
    else if c = ' ' ∨ c = '\t' then time? moment (skipSpaces after)
    else none

/-- Whether a plain text stands for the point in time that it writes: without a time of day, the
month and the day need two digits. -/
def isPlainForm (cs : List Char) : Bool :=
  match ofChars? cs with
  | some moment => moment.time.isSome || cs.length = 10
  | none => false

/-- The number of days of a month. -/
def monthLength (year month : Nat) : Nat :=
  if month = 2 then
    if year % 4 = 0 ∧ (year % 100 ≠ 0 ∨ year % 400 = 0) then 29 else 28
  else if month = 4 ∨ month = 6 ∨ month = 9 ∨ month = 11 then 30
  else 31

/-- The millionths of a second that the first six digits of a fraction write. -/
def microseconds (fraction : List Char) : Nat :=
  Text.decimalNumber ((fraction ++ List.replicate 6 '0').take 6)

/-- The distance from universal time in seconds, which is less than a day. -/
def offsetSeconds : Option (Bool × Nat × Nat) → Except Refusal (Option Int)
  | none => .ok none
  | some (negative, hours, minutes) =>
    let seconds : Int := 3600 * hours + 60 * minutes
    if 86400 ≤ seconds then .error .badValue
    else .ok (some (if negative then -seconds else seconds))

/-- The day or moment that some parts make up, if it exists. -/
def value (written : WrittenMoment) : Except Refusal Value :=
  let day : CalendarDay := ⟨written.year, written.month, written.day⟩
  let dayExists := 1 ≤ day.year ∧ 1 ≤ day.month ∧ day.month ≤ 12 ∧ 1 ≤ day.day ∧
    day.day ≤ monthLength day.year day.month
  match written.time with
  | none => if dayExists then .ok (.day day) else .error .badValue
  | some (hour, minute, second) => do
    let offset ← offsetSeconds written.offset
    if dayExists ∧ hour < 24 ∧ minute < 60 ∧ second < 60 then
      return .moment ⟨day, hour, minute, second, microseconds written.fraction, offset⟩
    else .error .badValue

end WrittenMoment

/-! ## Plain scalars -/

/-- The tag that the text of a plain scalar implies. -/
def Tag.ofPlain (text : String) : Tag :=
  let cs := text.toList
  if text = "" ∨ text = "~" ∨ Form.isSpelling "null" text then .null
  else if Form.isTruth text then .bool
  else if Form.isReal cs then .float
  else if Form.isInteger cs then .int
  else if text = "<<" then .merge
  else if WrittenMoment.isPlainForm cs then .moment
  else if text = "=" then .default
  else .text

/-- The truth value with a name in any case. -/
def truthOfName (text : String) : Except Refusal Bool :=
  match Form.truthNames.find? (fun entry => entry.1 = Text.lower text) with
  | some entry => .ok entry.2
  | none => .error .unknownWord

/-! ## Bytes in base sixty-four -/

/-- The value of a character as a digit of base sixty-four. -/
def base64Digit? (c : Char) : Option Nat :=
  if c.isUpper then some (c.toNat - 65)
  else if c.isLower then some (c.toNat - 71)
  else if c.isDigit then some (c.toNat + 4)
  else if c = '+' then some 62
  else if c = '/' then some 63
  else none

/-- The bytes that characters write. `count` digits of a group of four have been read, with the
value `bits`, and `padding` signs that fill it up; other characters do not count. Enough of those
signs end the reading. -/
def base64From : (count bits padding : Nat) → (done : List UInt8) → List Char →
    Except Refusal (List UInt8)
  | count, _, _, done, [] => if count = 0 then .ok done.reverse else .error .malformed
  | count, bits, padding, done, c :: rest =>
    if c = '=' then
      if 2 ≤ count then
        if 4 ≤ count + padding + 1 then .ok done.reverse
        else base64From count bits (padding + 1) done rest
      else base64From count bits padding done rest
    else
      match base64Digit? c with
      | none => base64From count bits padding done rest
      | some d =>
        match count with
        | 0 => base64From 1 d 0 done rest
        | 1 => base64From 2 (d % 16) 0 (UInt8.ofNat (bits * 4 + d / 16) :: done) rest
        | 2 => base64From 3 (d % 4) 0 (UInt8.ofNat (bits * 16 + d / 4) :: done) rest
        | _ => base64From 0 0 0 (UInt8.ofNat (bits * 64 + d) :: done) rest

/-- The bytes that a text in ASCII writes. -/
def base64 (text : String) : Except Refusal (List UInt8) :=
  if text.toList.all (fun c => c.toNat < 128) then base64From 0 0 0 [] text.toList
  else .error .malformed

/-- The value of a scalar with a tag for scalars. -/
def scalarValue (tag : Tag) (text : String) : Except Refusal Value :=
  match tag with
  | .null => .ok .null
  | .bool => (truthOfName text).map .bool
  | .int => (Number.integer text).map .int
  | .float => (Number.real text).map .real
  | .binary => (base64 text).map .bytes
  | .moment =>
    match WrittenMoment.ofChars? text.toList with
    | some written => written.value
    | none => .error .noMoment
  | .text => .ok (.text text)
  | _ => .error .malformed

end Nullability.Yaml
