import Nullability.Value

/-!
# Values as JSON

Reading keeps what the format distinguishes and mappings need: integers of any size apart from
numbers with a point or an exponent, and the order of keys, where a repeated key keeps its first
place and takes its last value. Beside the standard, `NaN`, `Infinity` and `-Infinity` are numbers.
Writing uses ASCII alone and separates items by a comma and a blank, keys by a colon and a blank.
-/

namespace Nullability.Json

/-! ## Reading -/

/-- The rest of a text after blanks, tabs and line ends. -/
def skipBlank : List Char → List Char
  | c :: rest => if c = ' ' ∨ c = '\t' ∨ c = '\n' ∨ c = '\r' then skipBlank rest else c :: rest
  | [] => []

/-- The ASCII digits at the start of a text and the rest. -/
def digits (cs : List Char) : List Char × List Char :=
  (cs.takeWhile Char.isDigit, cs.dropWhile Char.isDigit)

/-- The number that ASCII digits write. -/
def number (cs : List Char) : Nat :=
  cs.foldl (fun n c => 10 * n + (c.toNat - 48)) 0

/-- The longest text of an integer that is accepted. -/
def digitLimit : Nat := 4300

/-- The sign, digits and exponent at the end of a number; without a digit there is none. -/
def exponentPart (cs : List Char) : Option (Int × List Char) :=
  match cs with
  | e :: rest =>
    if e = 'e' ∨ e = 'E' then
      let (negative, rest) := match rest with
        | '-' :: r => (true, r)
        | '+' :: r => (false, r)
        | r => (false, r)
      match digits rest with
      | ([], _) => none
      | (ds, after) => some (if negative then -(number ds : Int) else number ds, after)
    else none
  | [] => none

/-- The digits behind a point; without a digit there are none. -/
def fractionPart (cs : List Char) : Option (List Char × List Char) :=
  match cs with
  | '.' :: rest =>
    match digits rest with
    | ([], _) => none
    | found => some found
  | _ => none

/-- An unsigned number: an integer unless a fraction or an exponent follows. -/
def unsigned (negative : Bool) (cs : List Char) : Option (Value × List Char) :=
  let (whole, rest) := match cs with
    | '0' :: rest => (['0'], rest)
    | _ => digits cs
  if whole.isEmpty then none
  else
    let fraction := fractionPart rest
    let afterFraction := (fraction.map Prod.snd).getD rest
    let exponent := exponentPart afterFraction
    match fraction, exponent with
    | none, none =>
      if digitLimit < whole.length then none
      else
        let n : Int := number whole
        some (.int (if negative then -n else n), rest)
    | _, _ =>
      let ds := (fraction.map Prod.fst).getD []
      let e := (exponent.map Prod.fst).getD 0
      let after := (exponent.map Prod.snd).getD afterFraction
      some (.real (Binary64.ofDecimal negative (number (whole ++ ds)) (e - ds.length)), after)

/-- The character of a one-letter escape. -/
def shortEscape? : Char → Option Char
  | '"' => some '"'
  | '\\' => some '\\'
  | '/' => some '/'
  | 'b' => some '\x08'
  | 'f' => some '\x0c'
  | 'n' => some '\n'
  | 'r' => some '\r'
  | 't' => some '\t'
  | _ => none

/-- The number of four hexadecimal digits. -/
def unit? (a b c d : Char) : Option Nat := do
  let a ← Text.hexDigit? a
  let b ← Text.hexDigit? b
  let c ← Text.hexDigit? c
  let d ← Text.hexDigit? d
  return ((a * 16 + b) * 16 + c) * 16 + d

/-- What an escaped unit adds to the characters read so far, newest first: the second half of a
pair joins the first half, kept in `half`. A half without its partner becomes a replacement
character. -/
def addUnit (half : Option Nat) (done : List Char) (unit : Nat) : Option Nat × List Char :=
  match half with
  | some high =>
    if 0xDC00 ≤ unit ∧ unit < 0xE000 then
      (none, Char.ofNat (0x10000 + (high - 0xD800) * 0x400 + (unit - 0xDC00)) :: done)
    else if 0xD800 ≤ unit ∧ unit < 0xDC00 then (some unit, '\uFFFD' :: done)
    else (none, Char.ofNat unit :: '\uFFFD' :: done)
  | none =>
    if 0xD800 ≤ unit ∧ unit < 0xDC00 then (some unit, done)
    else if 0xDC00 ≤ unit ∧ unit < 0xE000 then (none, '\uFFFD' :: done)
    else (none, Char.ofNat unit :: done)

/-- The characters read so far once a plain character follows. -/
def closeHalf (half : Option Nat) (done : List Char) : List Char :=
  match half with
  | some _ => '\uFFFD' :: done
  | none => done

/-- The text up to the closing quotation mark; characters read so far are kept newest first. -/
def quotedText (half : Option Nat) (done : List Char) : List Char → Option (String × List Char)
  | [] => none
  | '"' :: rest => some (String.ofList (closeHalf half done).reverse, rest)
  | '\\' :: 'u' :: a :: b :: c :: d :: rest =>
    match unit? a b c d with
    | some unit =>
      let (half, done) := addUnit half done unit
      quotedText half done rest
    | none => none
  | '\\' :: e :: rest =>
    match shortEscape? e with
    | some c => quotedText none (c :: closeHalf half done) rest
    | none => none
  | c :: rest =>
    if c.toNat < 32 ∨ c = '\\' then none else quotedText none (c :: closeHalf half done) rest

mutual

/-- One value and the rest of the text; `fuel` bounds the number of values. -/
def value : (fuel : Nat) → List Char → Option (Value × List Char)
  | 0, _ => none
  | fuel + 1, cs =>
    match skipBlank cs with
    | '"' :: rest => (quotedText none [] rest).map (fun (s, after) => (.text s, after))
    | '[' :: rest =>
      match skipBlank rest with
      | ']' :: after => some (.list [], after)
      | first => items fuel [] first
    | '\x7b' :: rest =>
      match skipBlank rest with
      | '\x7d' :: after => some (.mapping [], after)
      | first => members fuel [] first
    | 'n' :: 'u' :: 'l' :: 'l' :: rest => some (.null, rest)
    | 't' :: 'r' :: 'u' :: 'e' :: rest => some (.bool true, rest)
    | 'f' :: 'a' :: 'l' :: 's' :: 'e' :: rest => some (.bool false, rest)
    | 'N' :: 'a' :: 'N' :: rest => some (.real .nan, rest)
    | 'I' :: 'n' :: 'f' :: 'i' :: 'n' :: 'i' :: 't' :: 'y' :: rest =>
      some (.real (.infinite false), rest)
    | '-' :: 'I' :: 'n' :: 'f' :: 'i' :: 'n' :: 'i' :: 't' :: 'y' :: rest =>
      some (.real (.infinite true), rest)
    | '-' :: rest => unsigned true rest
    | rest => unsigned false rest

/-- The items of a list from the next one on; those read so far are kept newest first. -/
def items : (fuel : Nat) → (done : List Value) → List Char → Option (Value × List Char)
  | 0, _, _ => none
  | fuel + 1, done, cs =>
    match value fuel cs with
    | none => none
    | some (v, rest) =>
      match skipBlank rest with
      | ',' :: next => items fuel (v :: done) next
      | ']' :: after => some (.list (v :: done).reverse, after)
      | _ => none

/-- The members of an object from the next one on. -/
def members : (fuel : Nat) → (done : List (String × Value)) → List Char →
    Option (Value × List Char)
  | 0, _, _ => none
  | fuel + 1, done, cs =>
    match skipBlank cs with
    | '"' :: start =>
      match quotedText none [] start with
      | none => none
      | some (key, rest) =>
        match skipBlank rest with
        | ':' :: body =>
          match value fuel body with
          | none => none
          | some (v, rest) =>
            let done := Pairs.insert key v done
            match skipBlank rest with
            | ',' :: next => members fuel done next
            | '\x7d' :: after => some (Value.ofFields done, after)
            | _ => none
        | _ => none
    | _ => none

end

/-- The value that a whole text writes. -/
def read? (s : String) : Option Value :=
  let cs := s.toList
  match value (2 * cs.length + 2) cs with
  | some (v, rest) => if (skipBlank rest).isEmpty then some v else none
  | none => none

/-! ## Writing -/

/-- Numbers that are not finite have names of their own. -/
def realFormat : Binary64.Format := ⟨-4, 15, "Infinity", "NaN"⟩

/-- A character as one escaped unit, or two if it lies beyond the first plane. -/
def unitEscape (n : Nat) : List Char :=
  if n < 0x10000 then '\\' :: 'u' :: Text.hexadecimal 4 n
  else
    let m := n - 0x10000
    '\\' :: 'u' :: Text.hexadecimal 4 (0xD800 + m / 0x400) ++
      '\\' :: 'u' :: Text.hexadecimal 4 (0xDC00 + m % 0x400)

/-- The form of a character between quotation marks. -/
def charForm (c : Char) : List Char :=
  match c with
  | '"' => ['\\', '"']
  | '\\' => ['\\', '\\']
  | '\n' => ['\\', 'n']
  | '\r' => ['\\', 'r']
  | '\t' => ['\\', 't']
  | '\x08' => ['\\', 'b']
  | '\x0c' => ['\\', 'f']
  | c => if 32 ≤ c.toNat ∧ c.toNat < 127 then [c] else unitEscape c.toNat

/-- A text between quotation marks, in ASCII. -/
def textForm (s : String) : String :=
  String.ofList ('"' :: s.toList.flatMap charForm ++ ['"'])

/-- The text that stands for a key. -/
def keyText : Value → String
  | .text s => s
  | .null => "null"
  | .bool b => if b then "true" else "false"
  | .int n => toString n
  | .real x => x.render realFormat
  | v => v.literal

mutual

/-- A value in one line; what the format lacks is written as the text of its literal. -/
def write : Value → String
  | .null => "null"
  | .bool b => if b then "true" else "false"
  | .int n => toString n
  | .real x => x.render realFormat
  | .text s => textForm s
  | .list items => "[" ++ Value.joined ", " (writeItems items) ++ "]"
  | .tuple items => "[" ++ Value.joined ", " (writeItems items) ++ "]"
  | .mapping entries => "\x7b" ++ Value.joined ", " (writeMembers entries) ++ "\x7d"
  | v => textForm v.literal

/-- The items of a list. -/
def writeItems : List Value → List String
  | [] => []
  | v :: rest => write v :: writeItems rest

/-- The members of a mapping. -/
def writeMembers : List (Value × Value) → List String
  | [] => []
  | (k, v) :: rest => (textForm (keyText k) ++ ": " ++ write v) :: writeMembers rest

end

end Nullability.Json
