import Nullability.Text.Utf8
import Nullability.Xml.CodePage
import Nullability.Xml.Name

/-!
# From bytes to characters

The encoding of a document is guessed from its first bytes and may be changed by its declaration,
within the same width of units. A document that cannot be decoded to its end is refused as a whole;
an encoding that is not known, or that needs several bytes for a character, is refused for that
reason and before anything behind the declaration is looked at.
-/

namespace Nullability.Xml

/-- Why a document is refused. -/
inductive Refusal where
  /-- It is not a well-formed document. -/
  | malformed
  /-- It declares an encoding that nobody knows. -/
  | unknownEncoding
  /-- It declares an encoding whose characters take several bytes. -/
  | multiByteEncoding
  /-- It declares an encoding that cannot decode single bytes. -/
  | undecodable
  /-- It declares the encoding of internationalised labels. -/
  | labelEncoding
  deriving DecidableEq, Repr, Inhabited

/-- How bytes stand for characters. -/
inductive Encoding where
  | utf8
  | utf16 (bigEndian : Bool)
  | latin1
  | ascii
  /-- ASCII in the lower half, a table in the upper half. -/
  | page (upper : Array Char)
  deriving DecidableEq

namespace Encoding

/-- The number of bytes in a unit. -/
def width : Encoding → Nat
  | utf16 _ => 2
  | _ => 1

/-- Whether the encoding has the Latin-1 characters as single units. -/
def isLatin : Encoding → Bool
  | utf16 _ | latin1 => true
  | _ => false

/-- Guesses the encoding from the first bytes and drops a byte order mark. One byte alone is no
document. -/
def detect? : List UInt8 → Option (Encoding × List UInt8)
  | 0xFE :: 0xFF :: rest => some (utf16 true, rest)
  | 0xFF :: 0xFE :: rest => some (utf16 false, rest)
  | 0xEF :: 0xBB :: 0xBF :: rest => some (utf8, rest)
  | first :: second :: rest =>
    if first = 0 then some (utf16 true, first :: second :: rest)
    else if second = 0 then some (utf16 false, first :: second :: rest)
    else some (utf8, first :: second :: rest)
  | _ => none

/-- The units of a byte string; a byte left over at the end makes it unreadable. -/
def units? (bigEndian : Bool) (done : List Nat) : List UInt8 → Option (List Nat)
  | [] => some done.reverse
  | [_] => none
  | a :: b :: rest =>
    let unit := if bigEndian then a.toNat * 256 + b.toNat else b.toNat * 256 + a.toNat
    units? bigEndian (unit :: done) rest

/-- The characters of 16-bit units. The first half of a pair takes ten bits of whatever unit
follows; a second half alone is unreadable. -/
def ofUnits? (done : List Char) : List Nat → Option (List Char)
  | [] => some done.reverse
  | unit :: rest =>
    if 0xD800 ≤ unit ∧ unit < 0xDC00 then
      match rest with
      | [] => none
      | second :: rest =>
        ofUnits? (Char.ofNat (0x10000 + (unit - 0xD800) * 0x400 + second % 0x400) :: done) rest
    else if 0xDC00 ≤ unit ∧ unit < 0xE000 then none
    else ofUnits? (Char.ofNat unit :: done) rest

/-- The characters of single bytes; a replacement character in the table marks a byte without
meaning. -/
def ofBytes? (upper : UInt8 → Option Char) (done : List Char) : List UInt8 → Option (List Char)
  | [] => some done.reverse
  | b :: rest =>
    if b.toNat < 128 then ofBytes? upper (Char.ofNat b.toNat :: done) rest
    else
      match upper b with
      | some c => ofBytes? upper (c :: done) rest
      | none => none

/-- The characters that bytes stand for, if they can be read to the end. -/
def decode? (encoding : Encoding) (bytes : List UInt8) : Option (List Char) :=
  match encoding with
  | utf8 => (Text.ofUtf8? bytes).map String.toList
  | utf16 bigEndian => (units? bigEndian [] bytes).bind (ofUnits? [])
  | latin1 => ofBytes? (fun b => some (Char.ofNat b.toNat)) [] bytes
  | ascii => ofBytes? (fun _ => none) [] bytes
  | page upper =>
    ofBytes? (fun b => (upper[b.toNat - 128]?).filter (fun c => c ≠ '\uFFFD')) [] bytes

/-- The ASCII characters at the start of a byte string, up to the first closing bracket. -/
def lead (encoding : Encoding) (done : List Char) : List UInt8 → List Char
  | [] => done.reverse
  | a :: rest =>
    match encoding, rest with
    | utf16 _, [] => done.reverse
    | utf16 bigEndian, b :: rest =>
      let (high, low) := if bigEndian then (a, b) else (b, a)
      if high ≠ 0 ∨ 128 ≤ low.toNat then done.reverse
      else
        let c := Char.ofNat low.toNat
        if c = '>' then (c :: done).reverse else lead encoding (c :: done) rest
    | _, rest =>
      if 128 ≤ a.toNat then done.reverse
      else
        let c := Char.ofNat a.toNat
        if c = '>' then (c :: done).reverse else lead encoding (c :: done) rest

end Encoding

/-! ## The declaration -/

/-- What a declaration says, and how many units it takes. -/
structure TextDeclaration where
  encoding : Option String
  standalone : Bool
  length : Nat
  deriving DecidableEq, Repr

/-- Whether a character may stand in a value of the declaration. -/
def isDeclarationChar (c : Char) : Bool :=
  Text.isAsciiLetter c || c.isDigit || c = '.' || c = '-' || c = '_'

/-- One `name = "value"` of the declaration behind at least one blank, and the rest; nothing if
only blanks are left. Refused if something else stands there. -/
def declarationItem? (cs : List Char) : Option (Option (String × String × List Char)) :=
  match cs with
  | [] => some none
  | c :: _ =>
    if !isBlank c then none
    else
      match skipBlanks cs with
      | [] => some none
      | start =>
        let isNamePart := fun c => c ≠ '=' && !isBlank c
        let name := start.takeWhile isNamePart
        match skipBlanks (start.dropWhile isNamePart) with
        | '=' :: rest =>
          match name, skipBlanks rest with
          | [], _ => none
          | _, mark :: rest =>
            if mark = '"' ∨ mark = '\'' then
              match rest.dropWhile isDeclarationChar with
              | close :: after =>
                if close = mark then
                  some (some (String.ofList name,
                    String.ofList (rest.takeWhile isDeclarationChar), after))
                else none
              | [] => none
            else none
          | _, [] => none
        | _ => none

/-- The truth value of the word after `standalone`. -/
def yesNo? : String → Option Bool
  | "yes" => some true
  | "no" => some false
  | _ => none

/-- The items behind the version: an encoding, which begins with a letter, then `standalone`. -/
def declarationTail? (cs : List Char) : Option (Option String × Bool) := do
  match ← declarationItem? cs with
  | none => return (none, false)
  | some ("encoding", value, rest) =>
    if !(value.toList.head?.any Text.isAsciiLetter) then none
    else
      match ← declarationItem? rest with
      | none => return (some value, false)
      | some ("standalone", word, rest) =>
        let standalone ← yesNo? word
        if rest.all isBlank then return (some value, standalone) else none
      | some _ => none
  | some ("standalone", word, rest) =>
    let standalone ← yesNo? word
    if rest.all isBlank then return (none, standalone) else none
  | some _ => none

/-- Whether a text begins like a declaration: its target is exactly `xml`. -/
def beginsDeclaration (lead : List Char) : Bool :=
  match lead with
  | '<' :: '?' :: 'x' :: 'm' :: 'l' :: next :: _ => !isNameChar false next
  | _ => false

/-- The declaration at the start of a document, given the ASCII characters there. -/
def readDeclaration (lead : List Char) : Except Refusal (Option TextDeclaration) :=
  if !beginsDeclaration lead then .ok none
  else
    match lead.reverse with
    | '>' :: '?' :: body =>
      match declarationItem? (body.reverse.drop 5) with
      | some (some ("version", _, rest)) =>
        match declarationTail? rest with
        | some (encoding, standalone) => .ok (some ⟨encoding, standalone, lead.length⟩)
        | none => .error .malformed
      | _ => .error .malformed
    | _ => .error .malformed

/-! ## Encodings by name -/

/-- A name of an encoding as tables list it: small letters, with one underscore for each run of
other characters between letters, digits and points. -/
def encodingKey (name : String) : String :=
  let step := fun (state : List Char × Bool) (c : Char) =>
    if Text.isAsciiLetter c || c.isDigit || c = '.' then
      (c.toLower :: (if state.2 && !state.1.isEmpty then '_' :: state.1 else state.1), false)
    else (state.1, true)
  String.ofList (name.toList.foldl step ([], false)).1.reverse

/-- Whether an encoding goes by a name, given the names it is looked up by and those of its own.
Points count as underscores in the former and are not allowed in the latter. -/
def goesBy (aliases names : List String) (key : String) : Bool :=
  aliases.contains key ||
    aliases.contains (String.ofList (key.toList.map (fun c => if c = '.' then '_' else c))) ||
    names.contains key

/-- The encoding that tables list under a name. -/
def listedEncoding (name : String) : Except Refusal Encoding :=
  let key := encodingKey name
  match codePages.find? (fun page => goesBy page.aliases page.names key) with
  | some page => .ok (.page page.upper.toList.toArray)
  | none =>
    if goesBy multiByteNames.1 multiByteNames.2 key then .error .multiByteEncoding
    else if goesBy otherLowerHalfNames.1 otherLowerHalfNames.2 key then .error .malformed
    else if undecodableNames.contains key then .error .undecodable
    else if labelEncodingNames.contains key then .error .labelEncoding
    else .error .unknownEncoding

/-- The encoding that a document declares, given the one it was guessed to have: units keep their
width and order. -/
def declaredEncoding (guessed : Encoding) (name : String) : Except Refusal Encoding :=
  let sameWidth := fun encoding =>
    if encoding.width = guessed.width then .ok encoding else .error .malformed
  match String.ofList (name.toList.map Char.toLower) with
  | "utf-8" => sameWidth .utf8
  | "iso-8859-1" => sameWidth .latin1
  | "us-ascii" => sameWidth .ascii
  | "utf-16" => if guessed.width = 2 then .ok guessed else .error .malformed
  | "utf-16be" => if guessed = .utf16 true then .ok guessed else .error .malformed
  | "utf-16le" => if guessed = .utf16 false then .ok guessed else .error .malformed
  | _ =>
    match listedEncoding name with
    | .ok encoding => sameWidth encoding
    | .error refusal => .error refusal

/-! ## The text of a document -/

/-- Whether a character may stand in a document at all. -/
def isLegal (c : Char) : Bool :=
  (32 ≤ c.toNat || c = '\t' || c = '\n' || c = '\r') && c.toNat ≠ 0xFFFE && c.toNat ≠ 0xFFFF

/-- Line ends as line feeds: a carriage return, with or without a line feed behind it, is one. -/
def unifyLineEnds (done : List Char) : List Char → List Char
  | [] => done.reverse
  | '\r' :: '\n' :: rest => unifyLineEnds ('\n' :: done) rest
  | c :: rest => unifyLineEnds ((if c = '\r' then '\n' else c) :: done) rest

/-- A document as text behind its declaration. -/
structure Source where
  text : List Char
  /-- Whether the encoding has the Latin-1 characters as single units. -/
  latin : Bool
  /-- Whether the document declares that it depends on nothing outside itself. -/
  standalone : Bool

/-- Decodes a document. -/
def Source.ofBytes (bytes : List UInt8) : Except Refusal Source :=
  match Encoding.detect? bytes with
  | none => .error .malformed
  | some (guessed, body) => do
    let declaration ← readDeclaration (guessed.lead [] body)
    let encoding ←
      match declaration.bind TextDeclaration.encoding with
      | some name => declaredEncoding guessed name
      | none => .ok guessed
    let used := (declaration.map TextDeclaration.length).getD 0 * guessed.width
    match encoding.decode? (body.drop used) with
    | none => .error .malformed
    | some text =>
      if text.all isLegal then
        .ok ⟨unifyLineEnds [] text, encoding.isLatin,
          (declaration.map TextDeclaration.standalone).getD false⟩
      else .error .malformed

end Nullability.Xml
