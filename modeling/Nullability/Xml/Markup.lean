import Nullability.Xml.Name

/-!
# Markup

The pieces that a document's content consists of: tags, references and text. Comments, instructions
and the content of text are checked and dropped. References are read but not yet replaced, in text
and in attribute values alike.
-/

namespace Nullability.Xml

/-- A part of an attribute value. -/
inductive ValuePart where
  /-- A character as it is written; blanks of every kind count as spaces. -/
  | written (c : Char)
  /-- A character given by its number. -/
  | numbered (c : Char)
  /-- A reference to an entity. -/
  | entity (name : String)
  deriving DecidableEq, Repr

/-- A part of the content of a document. -/
inductive Markup where
  /-- Text, which outside elements must be blank. -/
  | text (isBlank : Bool)
  /-- A reference to an entity. -/
  | entity (name : String)
  /-- A start tag; an empty element closes at once. -/
  | startTag (name : String) (attributes : List (String × List ValuePart)) (isEmpty : Bool)
  | endTag (name : String)
  deriving DecidableEq, Repr

/-! ## References -/

/-- Whether a number may stand for a character of a document. -/
def isLegalNumber (n : Nat) : Bool :=
  n < 0x110000 && !(0xD800 ≤ n && n < 0xE000) && n ≠ 0xFFFE && n ≠ 0xFFFF &&
    (32 ≤ n || n = 9 || n = 10 || n = 13)

/-- The character of a number in digits of a base; at least one digit is needed. -/
def numberedChar? (base : Nat) (digit? : Char → Option Nat) (cs : List Char) :
    Option (Char × List Char) :=
  let isDigit := fun c => (digit? c).isSome
  match cs.takeWhile isDigit, cs.dropWhile isDigit with
  | [], _ => none
  | digits, ';' :: rest =>
    let n := digits.foldl (fun n c => min (base * n + (digit? c).getD 0) 0x110000) 0
    if isLegalNumber n then some (Char.ofNat n, rest) else none
  | _, _ => none

/-- What follows an ampersand: a numbered character or an entity's name, up to a semicolon. -/
def takeReference? (latin : Bool) (cs : List Char) : Option (ValuePart × List Char) :=
  match cs with
  | '#' :: 'x' :: rest =>
    (numberedChar? 16 Text.hexDigit? rest).map (fun (c, after) => (.numbered c, after))
  | '#' :: rest =>
    (numberedChar? 10 Text.asciiDigit? rest).map (fun (c, after) => (.numbered c, after))
  | cs =>
    match takeName? latin cs with
    | some (name, ';' :: rest) => some (.entity (String.ofList name), rest)
    | _ => none

/-- The character of an entity that every document has. -/
def predefined? : String → Option Char
  | "lt" => some '<'
  | "gt" => some '>'
  | "amp" => some '&'
  | "quot" => some '"'
  | "apos" => some '\''
  | _ => none

/-! ## Comments and instructions -/

/-- The rest behind a comment whose opening was read: two dashes only occur at its end. -/
def skipComment? : List Char → Option (List Char)
  | '-' :: '-' :: '>' :: rest => some rest
  | '-' :: '-' :: _ => none
  | _ :: rest => skipComment? rest
  | [] => none

/-- The rest behind the text of an instruction. -/
def skipInstructionText? : List Char → Option (List Char)
  | '?' :: '>' :: rest => some rest
  | _ :: rest => skipInstructionText? rest
  | [] => none

/-- The rest behind an instruction whose opening was read; its target must not be `xml` in any
case. -/
def skipInstruction? (latin : Bool) (cs : List Char) : Option (List Char) :=
  match takeName? latin cs with
  | none => none
  | some (target, rest) =>
    if target.map Char.toLower = ['x', 'm', 'l'] then none
    else
      match rest with
      | '?' :: '>' :: after => some after
      | c :: _ => if isBlank c then skipInstructionText? rest else none
      | [] => none

/-- The rest behind a section of plain text whose opening was read. -/
def skipPlainSection? : List Char → Option (List Char)
  | ']' :: ']' :: '>' :: rest => some rest
  | _ :: rest => skipPlainSection? rest
  | [] => none

/-! ## Tags -/

/-- The parts of an attribute value up to its mark, or of a whole text if there is no mark; `fuel`
bounds the number of parts. -/
def valueParts? (latin : Bool) (mark : Option Char) :
    (fuel : Nat) → (done : List ValuePart) → List Char → Option (List ValuePart × List Char)
  | 0, _, _ => none
  | _ + 1, done, [] => if mark.isNone then some (done.reverse, []) else none
  | fuel + 1, done, c :: rest =>
    if some c = mark then some (done.reverse, rest)
    else if c = '<' then none
    else if c = '&' then
      match takeReference? latin rest with
      | some (part, rest) => valueParts? latin mark fuel (part :: done) rest
      | none => none
    else valueParts? latin mark fuel (.written c :: done) rest

/-- The attributes of a start tag and whether it closes at once; blanks separate attributes. -/
def takeAttributes? (latin : Bool) :
    (fuel : Nat) → (done : List (String × List ValuePart)) → List Char →
      Option (List (String × List ValuePart) × Bool × List Char)
  | 0, _, _ => none
  | fuel + 1, done, cs =>
    match skipBlanks cs with
    | '>' :: rest => some (done.reverse, false, rest)
    | '/' :: '>' :: rest => some (done.reverse, true, rest)
    | start =>
      if !cs.head?.any isBlank then none
      else
        match takeQualified? latin start with
        | none => none
        | some (name, rest) =>
          match skipBlanks rest with
          | '=' :: rest =>
            match skipBlanks rest with
            | mark :: rest =>
              if mark = '"' ∨ mark = '\'' then
                match valueParts? latin (some mark) (rest.length + 1) [] rest with
                | some (parts, rest) =>
                  takeAttributes? latin fuel ((String.ofList name, parts) :: done) rest
                | none => none
              else none
            | [] => none
          | _ => none

/-- A start tag whose opening bracket was read. -/
def takeStartTag? (latin : Bool) (cs : List Char) : Option (Markup × List Char) :=
  match takeQualified? latin cs with
  | none => none
  | some (name, rest) =>
    (takeAttributes? latin (rest.length + 1) [] rest).map
      (fun (attributes, isEmpty, after) =>
        (.startTag (String.ofList name) attributes isEmpty, after))

/-- An end tag whose opening was read. Its name is compared with that of the start tag, so it is
not checked further. -/
def takeEndTag? (latin : Bool) (cs : List Char) : Option (Markup × List Char) :=
  match takeName? latin cs with
  | none => none
  | some (first, rest) =>
    let isPart := fun c => isNameChar latin c || c = ':'
    match skipBlanks (rest.dropWhile isPart) with
    | '>' :: after => some (.endTag (String.ofList (first ++ rest.takeWhile isPart)), after)
    | _ => none

/-! ## Content -/

/-- Text up to the next bracket or ampersand; the end mark of a plain section must not occur. -/
def takeText? (isBlankSoFar : Bool) : List Char → Option (Bool × List Char)
  | [] => some (isBlankSoFar, [])
  | ']' :: ']' :: '>' :: _ => none
  | c :: rest =>
    if c = '<' ∨ c = '&' then some (isBlankSoFar, c :: rest)
    else takeText? (isBlankSoFar && isBlank c) rest

/-- The next part of the content, or nothing for a comment or an instruction. -/
def takeMarkup? (latin : Bool) (cs : List Char) : Option (Option Markup × List Char) :=
  match cs with
  | '<' :: '!' :: '-' :: '-' :: rest => (skipComment? rest).map (fun after => (none, after))
  | '<' :: '!' :: '[' :: 'C' :: 'D' :: 'A' :: 'T' :: 'A' :: '[' :: rest =>
    (skipPlainSection? rest).map (fun after => (some (.text false), after))
  | '<' :: '?' :: rest => (skipInstruction? latin rest).map (fun after => (none, after))
  | '<' :: '/' :: rest => (takeEndTag? latin rest).map (fun (tag, after) => (some tag, after))
  | '<' :: rest => (takeStartTag? latin rest).map (fun (tag, after) => (some tag, after))
  | '&' :: rest =>
    match takeReference? latin rest with
    | some (.entity name, after) => some (some (.entity name), after)
    | some (_, after) => some (some (.text false), after)
    | none => none
  | cs => (takeText? true cs).map (fun (blank, after) => (some (.text blank), after))

/-- The content of a text, up to its end; `fuel` bounds the number of parts. -/
def contentFrom? (latin : Bool) :
    (fuel : Nat) → (done : List Markup) → List Char → Option (List Markup)
  | 0, _, _ => none
  | _ + 1, done, [] => some done.reverse
  | fuel + 1, done, cs =>
    match takeMarkup? latin cs with
    | some (some markup, rest) => contentFrom? latin fuel (markup :: done) rest
    | some (none, rest) => contentFrom? latin fuel done rest
    | none => none

/-- The content that a whole text writes. -/
def content? (latin : Bool) (cs : List Char) : Option (List Markup) :=
  contentFrom? latin (cs.length + 1) [] cs

end Nullability.Xml
