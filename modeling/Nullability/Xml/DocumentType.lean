import Nullability.Xml.Entity
import Nullability.Xml.Source

/-!
# Document types

The part of a document before its root element. A document type declares entities and attributes;
both matter to readers, since entities are replaced and attributes may have defaults or consist of
tokens. Elements and notations are checked and forgotten. Nothing outside the document is read.

Declarations are read as symbols first: what separates two symbols is decided character by
character, and the grammar then sees the symbols alone.
-/

namespace Nullability.Xml

/-- What is declared about an attribute of an element. -/
structure AttributeRule where
  name : String
  /-- Whether the value consists of tokens, so that blanks at its ends do not count. -/
  isTokens : Bool
  default : Option String
  deriving DecidableEq, Repr

/-- What a document type declares. -/
structure DocumentType where
  entities : Entities
  /-- The attributes of each element in the order of their declaration. -/
  attributes : OrderedMap String (List AttributeRule)
  /-- Whether declarations still count: not behind a reference to declarations elsewhere, unless the
  document depends on nothing else. -/
  isOpen : Bool
  standalone : Bool
  allowance : Nat

namespace DocumentType

/-- The document type of a document without one. -/
def empty (standalone : Bool) (allowance : Nat) : DocumentType :=
  ⟨Entities.none, OrderedMap.empty, true, standalone, allowance⟩

/-- The rules for the attributes of an element. -/
def rulesFor (type : DocumentType) (element : String) : List AttributeRule :=
  (type.attributes.get? element).getD []

/-- Notes that declarations may exist outside the document. -/
def refersElsewhere (type : DocumentType) : DocumentType :=
  { type with entities := { type.entities with mayBeElsewhere := !type.standalone } }

end DocumentType

/-! ## Symbols -/

/-- A symbol of a document type. -/
inductive TypeSymbol where
  | literal (content : List Char)
  /-- The opening of a declaration with its keyword. -/
  | declaration (keyword : String)
  | comment
  | instruction
  /-- A name without a colon. -/
  | name (s : String)
  /-- A name of two parts. -/
  | qualified (s : String)
  /-- A word that need not begin like a name. -/
  | word (s : String)
  /-- A name with a mark that says how often it occurs. -/
  | repeated
  /-- A name behind a number sign. -/
  | reserved (s : String)
  | percent
  | parameterReference
  | comma
  | bar
  | openGroup
  /-- The end of a group with the mark behind it, if there is one. -/
  | closeGroup (mark : Option Char)
  | openSubset
  | closeSubset
  | close
  deriving DecidableEq, Repr

/-- Whether a text ends or goes on with a blank or one of some characters. -/
def endsWith (others : List Char) : List Char → Bool
  | c :: _ => isBlank c || others.contains c
  | [] => false

/-- A literal whose mark was read. -/
def takeLiteral? (mark : Char) (cs : List Char) : Option (TypeSymbol × List Char) :=
  match cs.dropWhile (fun c => c ≠ mark) with
  | _ :: rest =>
    if endsWith ['>', '%', '['] rest then some (.literal (cs.takeWhile (fun c => c ≠ mark)), rest)
    else none
  | [] => none

/-- A declaration whose opening was read: its keyword consists of letters. -/
def takeKeyword? (cs : List Char) : Option (TypeSymbol × List Char) :=
  let isKeywordChar := fun c => Text.isAsciiLetter c || c = '_'
  match cs.takeWhile isKeywordChar, cs.dropWhile isKeywordChar with
  | [], _ => none
  | keyword, rest =>
    if endsWith [] rest then some (.declaration (String.ofList keyword), rest) else none

/-- A word of name characters and colons, and what kind of word it is. -/
def takeWord? (latin : Bool) (cs : List Char) : Option (TypeSymbol × List Char) :=
  let isPart := fun c => isNameChar latin c || c = ':'
  let text := cs.takeWhile isPart
  let rest := cs.dropWhile isPart
  let s := String.ofList text
  let symbol : TypeSymbol :=
    if !(text.head?.any (isNameStart latin)) then .word s
    else
      match text.dropWhile (isNameChar latin) with
      | [] => .name s
      | _ :: second =>
        if !second.isEmpty && second.all (isNameChar latin) then .qualified s else .word s
  if text.isEmpty then none
  else if endsWith ['>', ')', ',', '|', '[', '%'] rest then some (symbol, rest)
  else
    match symbol, rest with
    | .word _, _ => none
    | _, c :: after => if c = '+' ∨ c = '*' ∨ c = '?' then some (.repeated, after) else none
    | _, [] => none

/-- A percent sign that was read begins a reference, or stands alone before a blank. -/
def takePercent? (latin : Bool) (cs : List Char) : Option (TypeSymbol × List Char) :=
  match takeName? latin cs with
  | some (_, ';' :: rest) => some (.parameterReference, rest)
  | some _ => none
  | none => if endsWith ['%'] cs then some (.percent, cs) else none

/-- A number sign that was read begins a reserved name. -/
def takeReserved? (latin : Bool) (cs : List Char) : Option (TypeSymbol × List Char) :=
  match takeName? latin cs with
  | some (name, rest) =>
    if endsWith [')', '>', '%', '|'] rest then some (.reserved (String.ofList name), rest)
    else none
  | none => none

/-- The end of a group that was read may carry a mark. -/
def takeGroupEnd? (cs : List Char) : Option (TypeSymbol × List Char) :=
  match cs with
  | c :: rest =>
    if c = '*' ∨ c = '?' ∨ c = '+' then some (.closeGroup (some c), rest)
    else if endsWith ['>', ',', '|', ')'] cs then some (.closeGroup none, cs)
    else none
  | [] => none

/-- The next symbol of a text that does not begin with a blank. -/
def takeSymbol? (latin : Bool) (cs : List Char) : Option (TypeSymbol × List Char) :=
  match cs with
  | '"' :: rest => takeLiteral? '"' rest
  | '\'' :: rest => takeLiteral? '\'' rest
  | '<' :: '!' :: '-' :: '-' :: rest => (skipComment? rest).map (fun after => (.comment, after))
  | '<' :: '!' :: rest => takeKeyword? rest
  | '<' :: '?' :: rest =>
    (skipInstruction? latin rest).map (fun after => (.instruction, after))
  | '%' :: rest => takePercent? latin rest
  | '#' :: rest => takeReserved? latin rest
  | ',' :: rest => some (.comma, rest)
  | '|' :: rest => some (.bar, rest)
  | '(' :: rest => some (.openGroup, rest)
  | ')' :: rest => takeGroupEnd? rest
  | '[' :: rest => some (.openSubset, rest)
  | ']' :: rest => some (.closeSubset, rest)
  | '>' :: rest => some (.close, rest)
  | cs => takeWord? latin cs

/-- The symbols of a document type up to the bracket that ends it, and the rest; brackets inside
its subset end declarations only. -/
def typeSymbols? (latin : Bool) :
    (fuel : Nat) → (inSubset : Bool) → (done : List TypeSymbol) → List Char →
      Option (List TypeSymbol × List Char)
  | 0, _, _, _ => none
  | fuel + 1, inSubset, done, cs =>
    match takeSymbol? latin (skipBlanks cs) with
    | none => none
    | some (.close, rest) =>
      if inSubset then typeSymbols? latin fuel true (.close :: done) rest
      else some (done.reverse, rest)
    | some (.openSubset, rest) =>
      if inSubset then none else typeSymbols? latin fuel true (.openSubset :: done) rest
    | some (.closeSubset, rest) =>
      if inSubset then typeSymbols? latin fuel false (.closeSubset :: done) rest else none
    | some (symbol, rest) => typeSymbols? latin fuel inSubset (symbol :: done) rest

/-! ## Declarations of entities and notations -/

/-- Whether a character may stand in a public identifier. -/
def isPublicChar (c : Char) : Bool :=
  Text.isAsciiLetter c || c.isDigit || c = ' ' || c = '\n' ||
    "-'()+,./:=?;!*#@$_%".toList.contains c

/-- The text of an entity: numbered characters are replaced, references to entities stay, and a
percent sign is refused; `fuel` bounds the number of characters. -/
def entityText? (latin : Bool) :
    (fuel : Nat) → (done : List Char) → List Char → Option (List Char)
  | 0, _, _ => none
  | _ + 1, done, [] => some done.reverse
  | fuel + 1, done, c :: rest =>
    if c = '%' then none
    else if c = '&' then
      match takeReference? latin rest with
      | some (.entity name, rest) =>
        entityText? latin fuel (';' :: name.toList.reverse ++ '&' :: done) rest
      | some (.numbered c, rest) => entityText? latin fuel (c :: done) rest
      | some (.written c, rest) => entityText? latin fuel (c :: done) rest
      | none => none
    else entityText? latin fuel (c :: done) rest

/-- Where an external entity or notation is: at an address, or known by a public identifier. What
follows the identifier is handed back. -/
def externalId? : List TypeSymbol → Option (List TypeSymbol)
  | .name "SYSTEM" :: .literal _ :: rest => some rest
  | .name "PUBLIC" :: .literal id :: .literal _ :: rest =>
    if id.all isPublicChar then some rest else none
  | _ => none

/-- Declares an entity unless its name is taken; declarations that do not count are dropped. -/
def DocumentType.declareEntity (type : DocumentType) (name : String) (body : EntityBody) :
    DocumentType :=
  if !type.isOpen ∨ (predefined? name).isSome ∨ type.entities.bodies.contains name then type
  else
    { type with
      entities := { type.entities with bodies := type.entities.bodies.insert name body } }

/-- The declaration of an entity. Entities for document types have a percent sign and are never
used. -/
def DocumentType.entityDeclaration? (latin : Bool) (type : DocumentType) :
    List TypeSymbol → Option DocumentType
  | [.percent, .name _, .literal value] =>
    if type.isOpen then
      (entityText? latin (value.length + 1) [] value).map (fun _ => type)
    else some type
  | .percent :: .name _ :: rest =>
    match externalId? rest with
    | some [] => some type
    | _ => none
  | [.name name, .literal value] =>
    if type.isOpen then
      (entityText? latin (value.length + 1) [] value).map
        (fun text => type.declareEntity name (.internal (unifyLineEnds [] text)))
    else some type
  | .name name :: rest =>
    match externalId? rest with
    | some [] => some (type.declareEntity name .external)
    | some [.name "NDATA", .name _] => some (type.declareEntity name .external)
    | _ => none
  | _ => none

/-- Whether symbols declare a notation. -/
def isNotationBody : List TypeSymbol → Bool
  | [.name _, .name "PUBLIC", .literal id] => id.all isPublicChar
  | .name _ :: rest => externalId? rest = some []
  | _ => false

/-! ## Declarations of attributes -/

/-- The rest behind an enumeration whose opening was read; `allows` tells which words it may
have. -/
def enumeration? (allows : TypeSymbol → Bool) : List TypeSymbol → Option (List TypeSymbol)
  | word :: .bar :: rest => if allows word then enumeration? allows rest else none
  | word :: .closeGroup none :: rest => if allows word then some rest else none
  | _ => none

/-- Whether a symbol is a word of name characters. -/
def TypeSymbol.isWord : TypeSymbol → Bool
  | .name _ | .qualified _ | .word _ => true
  | _ => false

/-- Whether a symbol is a name without a colon. -/
def TypeSymbol.isName : TypeSymbol → Bool
  | .name _ => true
  | _ => false

/-- The text of a name of one or two parts. -/
def TypeSymbol.nameText? : TypeSymbol → Option String
  | .name s | .qualified s => some s
  | _ => none

/-- A type of attribute: whether values consist of tokens, whether they identify elements, and the
symbols behind the type. -/
def attributeType? : List TypeSymbol → Option (Bool × Bool × List TypeSymbol)
  | .name "CDATA" :: rest => some (false, false, rest)
  | .name "ID" :: rest => some (true, true, rest)
  | .name "NOTATION" :: .openGroup :: rest =>
    (enumeration? TypeSymbol.isName rest).map (fun after => (true, false, after))
  | .name word :: rest =>
    if ["IDREF", "IDREFS", "ENTITY", "ENTITIES", "NMTOKEN", "NMTOKENS"].contains word then
      some (true, false, rest)
    else none
  | .openGroup :: rest =>
    (enumeration? TypeSymbol.isWord rest).map (fun after => (true, false, after))
  | _ => none

/-- What stands for a missing attribute, as written, and the symbols behind it. -/
def attributeDefault? : List TypeSymbol → Option (Option (List Char) × List TypeSymbol)
  | .reserved "IMPLIED" :: rest => some (none, rest)
  | .reserved "REQUIRED" :: rest => some (none, rest)
  | .reserved "FIXED" :: .literal value :: rest => some (some value, rest)
  | .literal value :: rest => some (some value, rest)
  | _ => none

/-- Adds a rule for an attribute. A default or an identifying type does not count if the attribute
was declared before. -/
def DocumentType.declareAttribute (type : DocumentType) (element : String) (rule : AttributeRule)
    (isIdentifier : Bool) : DocumentType :=
  let rules := type.rulesFor element
  if (rule.default.isSome ∨ isIdentifier) ∧ rules.any (fun known => known.name = rule.name) then
    type
  else { type with attributes := type.attributes.insert element (rules ++ [rule]) }

/-- The declarations of the attributes of an element, from the next one on; `fuel` bounds their
number. -/
def DocumentType.attributeDeclarations? (latin : Bool) (element : String) :
    (fuel : Nat) → DocumentType → List TypeSymbol → Option DocumentType
  | 0, _, _ => none
  | _ + 1, type, [] => some type
  | fuel + 1, type, symbol :: rest =>
    match symbol.nameText? with
    | none => none
    | some name =>
      match attributeType? rest with
      | none => none
      | some (isTokens, isIdentifier, rest) =>
        match attributeDefault? rest with
        | none => none
        | some (written, rest) =>
          if !type.isOpen then attributeDeclarations? latin element fuel type rest
          else
            match written with
            | none =>
              let rule := ⟨name, isTokens, none⟩
              attributeDeclarations? latin element fuel
                (type.declareAttribute element rule isIdentifier) rest
            | some value =>
              match valueParts? latin none (value.length + 1) [] value with
              | none => none
              | some (parts, _) =>
                match attributeValue? type.entities [] type.allowance isTokens parts with
                | none => none
                | some (text, left) =>
                  let type := { type with allowance := left }
                  attributeDeclarations? latin element fuel
                    (type.declareAttribute element ⟨name, isTokens, some text⟩ isIdentifier) rest

/-! ## Declarations of elements -/

/-- Whether a symbol is a name in a content model. -/
def TypeSymbol.isContentName : TypeSymbol → Bool
  | .name _ | .qualified _ | .repeated => true
  | _ => false

/-- Whether symbols end a model of text mixed with elements. -/
def endsMixed : List TypeSymbol → Bool
  | [.closeGroup (some '*')] => true
  | .bar :: symbol :: rest => symbol.nameText?.isSome && endsMixed rest
  | _ => false

/-- Whether symbols go on and end a content model. Each open group remembers its separator, which
must not change; `expectsItem` tells whether a name or a group must come next. -/
def endsModel : (groups : List (Option TypeSymbol)) → (expectsItem : Bool) →
    List TypeSymbol → Bool
  | groups, true, .openGroup :: rest => endsModel (none :: groups) true rest
  | groups, true, symbol :: rest => symbol.isContentName && endsModel groups false rest
  | [_], false, [.closeGroup _] => true
  | _ :: outer :: groups, false, .closeGroup _ :: rest => endsModel (outer :: groups) false rest
  | separator :: groups, false, .bar :: rest =>
    separator ≠ some .comma && endsModel (some .bar :: groups) true rest
  | separator :: groups, false, .comma :: rest =>
    separator ≠ some .bar && endsModel (some .comma :: groups) true rest
  | _, _, _ => false

/-- Whether symbols declare an element. -/
def isElementBody : List TypeSymbol → Bool
  | symbol :: rest =>
    symbol.nameText?.isSome &&
      (match rest with
        | [.name word] => word = "EMPTY" || word = "ANY"
        | .openGroup :: .reserved "PCDATA" :: rest =>
          (match rest with
            | [.closeGroup mark] => mark = none || mark = some '*'
            | _ => endsMixed rest)
        | .openGroup :: rest => endsModel [none] true rest
        | _ => false)
  | [] => false

/-! ## The document type as a whole -/

/-- Applies the declarations of a subset; `fuel` bounds their number. -/
def DocumentType.readSubset? (latin : Bool) :
    (fuel : Nat) → DocumentType → List TypeSymbol → Option DocumentType
  | 0, _, _ => none
  | _ + 1, type, [] => some type
  | fuel + 1, type, .comment :: rest => readSubset? latin fuel type rest
  | fuel + 1, type, .instruction :: rest => readSubset? latin fuel type rest
  | fuel + 1, type, .parameterReference :: rest =>
    readSubset? latin fuel { type.refersElsewhere with isOpen := type.standalone } rest
  | fuel + 1, type, .declaration keyword :: symbols =>
    let isPart := fun symbol => symbol ≠ TypeSymbol.close
    let body := symbols.takeWhile isPart
    let rest := (symbols.dropWhile isPart).drop 1
    let declared : Option DocumentType :=
      match keyword, body with
      | "ENTITY", body => type.entityDeclaration? latin body
      | "NOTATION", body => if isNotationBody body then some type else none
      | "ELEMENT", body => if isElementBody body then some type else none
      | "ATTLIST", symbol :: body =>
        match symbol.nameText? with
        | some element =>
          type.attributeDeclarations? latin element (body.length + 1) body
        | none => none
      | _, _ => none
    match declared with
    | some type => readSubset? latin fuel type rest
    | none => none
  | _ + 1, _, _ => none

/-- Reads the symbols behind the keyword of a document type: a name, perhaps the address of
declarations elsewhere, and perhaps a subset. -/
def DocumentType.read? (latin : Bool) (type : DocumentType) (symbols : List TypeSymbol) :
    Option DocumentType :=
  let subset := fun (type : DocumentType) (symbols : List TypeSymbol) =>
    match symbols with
    | [] => some type
    | .openSubset :: symbols =>
      match symbols.reverse with
      | .closeSubset :: body => type.readSubset? latin (body.length + 1) body.reverse
      | _ => none
    | _ => none
  match symbols with
  | symbol :: rest =>
    if symbol.nameText?.isNone then none
    else
      match externalId? rest with
      | some rest => subset type.refersElsewhere rest
      | none => subset type rest
  | [] => none

/-- Skips blanks, comments and instructions; `fuel` bounds their number. -/
def skipMiscellaneous? (latin : Bool) : (fuel : Nat) → List Char → Option (List Char)
  | 0, _ => none
  | fuel + 1, cs =>
    match skipBlanks cs with
    | '<' :: '!' :: '-' :: '-' :: rest =>
      (skipComment? rest).bind (skipMiscellaneous? latin fuel)
    | '<' :: '?' :: rest => (skipInstruction? latin rest).bind (skipMiscellaneous? latin fuel)
    | rest => some rest

/-- Reads what stands before the root element; the rest begins with the root. -/
def readProlog? (latin standalone : Bool) (cs : List Char) :
    Option (DocumentType × List Char) :=
  let type := DocumentType.empty standalone (expansionAllowance cs.length)
  match skipMiscellaneous? latin (cs.length + 1) cs with
  | none => none
  | some start =>
    match start with
    | '<' :: '!' :: 'D' :: 'O' :: 'C' :: 'T' :: 'Y' :: 'P' :: 'E' :: rest =>
      if !rest.head?.any isBlank then none
      else
        match typeSymbols? latin (rest.length + 1) false [] rest with
        | none => none
        | some (symbols, rest) =>
          match type.read? latin symbols, skipMiscellaneous? latin (rest.length + 1) rest with
          | some type, some rest => some (type, rest)
          | _, _ => none
    | rest => some (type, rest)

end Nullability.Xml
