/-!
# Places in a YAML text

A cursor is a place in a text: what is left of it, how many characters stand before, and the line
and column. The layout of YAML depends on columns, so every character is passed one by one. A line
ends at a line feed or at one of three rarer characters.
-/

namespace Nullability.Yaml

/-- Why a text gives no value: it is not a YAML document, or it writes a value that does not exist,
in one of the ways that are told apart. -/
inductive Refusal where
  | malformed
  /-- A number, day or time of day that does not exist. -/
  | badValue
  /-- A word that stands for no truth value. -/
  | unknownWord
  /-- A number without digits. -/
  | nothingWritten
  /-- A point in time that is not written as one. -/
  | noMoment
  /-- A number with a part that is too large to count. -/
  | tooLarge
  /-- Not a text, where the text itself is looked at. -/
  | noText
  /-- A scalar that stands for itself. -/
  | endless
  deriving DecidableEq, Repr, Inhabited

/-- The longest run of digits that is read as a number, unless the base is a power of two. -/
def digitLimit : Nat := 4300

/-- Whether a character ends a line. -/
def isBreak (c : Char) : Bool :=
  c = '\n' || c = '\u0085' || c = '\u2028' || c = '\u2029'

/-- Whether a character is a blank, a tab or the end of a line. -/
def isSpace (c : Char) : Bool :=
  c = ' ' || c = '\t' || isBreak c

/-- Whether a line ends here. -/
def endsLine : Option Char → Bool
  | none => true
  | some c => isBreak c

/-- Whether a word ends here. -/
def endsWord : Option Char → Bool
  | none => true
  | some c => isSpace c

/-- Whether a directive, tag or header ends here; a tab does not end it. -/
def endsField : Option Char → Bool
  | none => true
  | some c => c = ' ' || isBreak c

/-- Whether a character may stand in the name of an anchor, a directive or a tag handle. -/
def isNameChar (c : Char) : Bool :=
  c.isAlphanum || c = '-' || c = '_'

/-- A place in a text. -/
structure Cursor where
  rest : List Char
  index : Nat
  line : Nat
  column : Nat
  deriving Inhabited

namespace Cursor

/-- The start of a text. -/
def start (text : List Char) : Cursor := ⟨text, 0, 0, 0⟩

/-- The next character. -/
def peek (c : Cursor) : Option Char := c.rest.head?

/-- The character some places further on. -/
def peekAt (c : Cursor) (distance : Nat) : Option Char := c.rest[distance]?

/-- The place behind the next character. A byte order mark takes no column. -/
def next (c : Cursor) : Cursor :=
  match c.rest with
  | [] => c
  | ch :: rest =>
    if isBreak ch then ⟨rest, c.index + 1, c.line + 1, 0⟩
    else ⟨rest, c.index + 1, c.line, if ch = '\uFEFF' then c.column else c.column + 1⟩

/-- The place some characters further on. -/
def skip : Nat → Cursor → Cursor
  | 0, c => c
  | n + 1, c => skip n c.next

/-- The characters from here on that satisfy a test, and the place behind them. -/
def span (p : Char → Bool) (c : Cursor) : List Char × Cursor :=
  let found := c.rest.takeWhile p
  (found, c.skip found.length)

/-- The place behind the characters that satisfy a test. -/
def skipWhile (p : Char → Bool) (c : Cursor) : Cursor :=
  (c.span p).2

/-- The place behind the blanks. -/
def skipBlanks (c : Cursor) : Cursor :=
  c.skipWhile (fun ch => ch = ' ')

/-- The place behind a comment, if one starts here. -/
def skipComment (c : Cursor) : Cursor :=
  if c.peek = some '#' then c.skipWhile (fun ch => !isBreak ch) else c

/-- The text that the end of a line stands for, and the place behind it. The usual ends of lines
are all the same; nothing is read where no line ends. -/
def lineBreak (c : Cursor) : List Char × Cursor :=
  match c.peek with
  | some ch =>
    if ch = '\n' ∨ ch = '\u0085' then (['\n'], c.next)
    else if isBreak ch then ([ch], c.next)
    else ([], c)
  | none => ([], c)

/-- Whether a mark of three characters stands here as a word of its own. -/
def isAtMark (mark : List Char) (c : Cursor) : Bool :=
  mark.isPrefixOf c.rest && endsWord (c.peekAt 3)

/-- Whether the start or the end of a document is marked here. -/
def isAtDocumentMark (c : Cursor) : Bool :=
  c.isAtMark ['-', '-', '-'] || c.isAtMark ['.', '.', '.']

/-- The place behind the rest of a line on which only blanks and a comment may follow. -/
def endOfLine (c : Cursor) : Except Refusal Cursor :=
  let c := c.skipBlanks.skipComment
  if endsLine c.peek then .ok c.lineBreak.2 else .error .malformed

end Cursor

end Nullability.Yaml
