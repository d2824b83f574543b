import Nullability.Yaml.Token.Decoration
import Nullability.Yaml.Token.Scalar

/-!
# From text to tokens

Tokens are read one after the other. Two things need memory. The indentation of the open block
collections decides which tokens for their starts and ends are put in. And a key is known as one
only when its colon is reached, so every token that may be a key is remembered by its place among
the tokens, for each depth of brackets; a colon then puts the tokens of a key in front of it. A
token can be a key only as long as its line goes on, and not for more than 1024 characters.

Reading stops at the first refusal, behind the tokens read until then.
-/

namespace Nullability.Yaml

/-- A token that may turn out to be a key. -/
structure PossibleKey where
  /-- The number of tokens before it. -/
  place : Nat
  /-- Whether the layout allows nothing but a key. -/
  isRequired : Bool
  index : Nat
  line : Nat
  column : Nat

/-- What is known between two tokens. -/
structure Lexer where
  cursor : Cursor
  tokens : Array Token
  /-- The number of open brackets. -/
  depth : Nat
  /-- The column of the innermost block collection, and those of the ones around it. -/
  indent : Int
  outerIndents : List Int
  /-- Whether a key may start here. -/
  allowsKey : Bool
  /-- The possible key of each depth that has one. -/
  keys : List (Nat × PossibleKey)

namespace Lexer

/-- The state in front of a text. -/
def start (text : List Char) : Lexer :=
  ⟨.start text, #[], 0, -1, [], true, []⟩

/-- Adds a token. -/
def emit (l : Lexer) (token : Token) : Lexer :=
  { l with tokens := l.tokens.push token }

/-- Goes to another place in the text. -/
def moveTo (l : Lexer) (c : Cursor) : Lexer :=
  { l with cursor := c }

/-- Says whether a key may start next. -/
def allowKey (l : Lexer) (allows : Bool) : Lexer :=
  { l with allowsKey := allows }

/-- Whether brackets are open. -/
def inFlow (l : Lexer) : Bool := l.depth ≠ 0

/-! ## Possible keys -/

/-- The possible key at the present depth. -/
def possibleKey? (l : Lexer) : Option PossibleKey :=
  (l.keys.find? (fun entry => entry.1 = l.depth)).map Prod.snd

/-- Forgets the possible key at the present depth. -/
def forgetKey (l : Lexer) : Lexer :=
  { l with keys := l.keys.filter (fun entry => entry.1 ≠ l.depth) }

/-- Gives up the possible key at the present depth; one that must be a key is refused. -/
def dropKey (l : Lexer) : Except Refusal Lexer :=
  match l.possibleKey? with
  | some key => if key.isRequired then .error .malformed else .ok l.forgetKey
  | none => .ok l

/-- Whether a possible key can no longer become one. -/
def isStale (c : Cursor) (key : PossibleKey) : Bool :=
  key.line ≠ c.line || 1024 < c.index - key.index

/-- Gives up the possible keys that can no longer become one. -/
def dropStaleKeys (l : Lexer) : Except Refusal Lexer :=
  if l.keys.any (fun entry => isStale l.cursor entry.2 && entry.2.isRequired) then
    .error .malformed
  else .ok { l with keys := l.keys.filter (fun entry => !isStale l.cursor entry.2) }

/-- Remembers that the next token may be a key. -/
def rememberKey (l : Lexer) : Except Refusal Lexer :=
  if l.allowsKey then do
    let l ← l.dropKey
    let key : PossibleKey := ⟨l.tokens.size, !l.inFlow && l.indent = l.cursor.column,
      l.cursor.index, l.cursor.line, l.cursor.column⟩
    return { l with keys := (l.depth, key) :: l.keys }
  else .ok l

/-! ## Indentation -/

/-- Closes the block collections that are indented deeper than a column. -/
def closeBlocks (column : Int) : (fuel : Nat) → Lexer → Lexer
  | 0, l => l
  | fuel + 1, l =>
    if column < l.indent then
      closeBlocks column fuel
        { l.emit .blockEnd with
          indent := l.outerIndents.head?.getD (-1), outerIndents := l.outerIndents.tail }
    else l

/-- Closes the block collections that are indented deeper than a column, unless brackets are
open. -/
def unwind (l : Lexer) (column : Int) : Lexer :=
  if l.inFlow then l else closeBlocks column l.outerIndents.length l

/-- Opens a block collection at a column if it is deeper than the innermost one; its token goes in
front of the token with the given number. -/
def openBlock (l : Lexer) (column : Nat) (place : Nat) (token : Token) : Lexer :=
  if l.indent < column then
    { l with
      indent := column, outerIndents := l.indent :: l.outerIndents
      tokens := l.tokens.insertIdxIfInBounds place token }
  else l

/-! ## Single tokens -/

/-- The place of the next token, with what the line ends on the way change. -/
def skipToToken : (fuel : Nat) → Lexer → Lexer
  | 0, l => l
  | fuel + 1, l =>
    let c := l.cursor.skipBlanks.skipComment
    if c.peek.any isBreak then
      skipToToken fuel ((l.moveTo c.lineBreak.2).allowKey (l.allowsKey || !l.inFlow))
    else l.moveTo c

/-- A token of the given length that closes all blocks. -/
def mark (l : Lexer) (length : Nat) (token : Token) : Except Refusal Lexer := do
  let l ← (l.unwind (-1)).dropKey
  return ((l.allowKey false).emit token).moveTo (l.cursor.skip length)

/-- The end of the text. -/
def finish (l : Lexer) : Except Refusal Lexer :=
  l.mark 0 .textEnd

/-- A directive. -/
def directive (l : Lexer) : Except Refusal Lexer := do
  let l ← (l.unwind (-1)).dropKey
  let (directive, c) ← readDirective l.cursor
  return ((l.allowKey false).emit (.directive directive)).moveTo c

/-- An opening bracket. -/
def openFlow (l : Lexer) (token : Token) : Except Refusal Lexer := do
  let l ← l.rememberKey
  return { ((l.allowKey true).emit token).moveTo l.cursor.next with depth := l.depth + 1 }

/-- A closing bracket. -/
def closeFlow (l : Lexer) (token : Token) : Except Refusal Lexer := do
  let l ← l.dropKey
  if l.inFlow then
    return { ((l.allowKey false).emit token).moveTo l.cursor.next with depth := l.depth - 1 }
  else .error .malformed

/-- A comma between brackets. -/
def flowEntry (l : Lexer) : Except Refusal Lexer := do
  let l ← l.dropKey
  return ((l.allowKey true).emit .flowEntry).moveTo l.cursor.next

/-- The dash of an entry. -/
def blockEntry (l : Lexer) : Except Refusal Lexer := do
  let l ←
    if l.inFlow then pure l
    else if l.allowsKey then
      pure (l.openBlock l.cursor.column l.tokens.size .blockSequenceStart)
    else .error .malformed
  let l ← l.dropKey
  return ((l.allowKey true).emit .blockEntry).moveTo l.cursor.next

/-- The question mark of a key. -/
def explicitKey (l : Lexer) : Except Refusal Lexer := do
  let l ←
    if l.inFlow then pure l
    else if l.allowsKey then pure (l.openBlock l.cursor.column l.tokens.size .blockMappingStart)
    else .error .malformed
  let l ← l.dropKey
  return ((l.allowKey (!l.inFlow)).emit .key).moveTo l.cursor.next

/-- The colon of a value. It makes a key of what may be one. -/
def value (l : Lexer) : Except Refusal Lexer := do
  let l ←
    match l.possibleKey? with
    | some key =>
      let l := l.forgetKey
      let l := { l with tokens := l.tokens.insertIdxIfInBounds key.place .key }
      let l := if l.inFlow then l else l.openBlock key.column key.place .blockMappingStart
      pure (l.allowKey false)
    | none =>
      if !l.inFlow && !l.allowsKey then .error .malformed
      else
        let l :=
          if l.inFlow then l
          else l.openBlock l.cursor.column l.tokens.size .blockMappingStart
        (l.allowKey (!l.inFlow)).dropKey
  return (l.emit .value).moveTo l.cursor.next

/-- An anchor or a reference to one. -/
def name (l : Lexer) (token : String → Token) : Except Refusal Lexer := do
  let l ← l.rememberKey
  let (name, c) ← readAnchor l.cursor
  return ((l.allowKey false).emit (token name)).moveTo c

/-- A tag. -/
def tag (l : Lexer) : Except Refusal Lexer := do
  let l ← l.rememberKey
  let (token, c) ← readTag l.cursor
  return ((l.allowKey false).emit token).moveTo c

/-- A scalar that is a block of lines. -/
def blockScalar (l : Lexer) (folded : Bool) : Except Refusal Lexer := do
  let l ← (l.allowKey true).dropKey
  let (text, c) ← Scalar.block folded l.indent l.cursor
  return (l.emit (.scalar text false)).moveTo c

/-- A scalar between quotation marks. -/
def quotedScalar (l : Lexer) (quotation : Char) : Except Refusal Lexer := do
  let l ← l.rememberKey
  let (text, c) ← Scalar.quoted quotation l.cursor
  return ((l.allowKey false).emit (.scalar text false)).moveTo c

/-- A plain scalar. -/
def plainScalar (l : Lexer) : Except Refusal Lexer := do
  let l ← l.rememberKey
  let (text, c, crossed) := Scalar.plain l.inFlow (l.indent + 1) l.cursor
  return ((l.allowKey crossed).emit (.scalar text true)).moveTo c

/-- Whether a plain scalar can start with a character. -/
def startsPlain (l : Lexer) (ch : Char) : Bool :=
  (!isSpace ch && !"-?:,[]\x7b\x7d#&*!|>'\"%@\x60".toList.contains ch) ||
    (!endsWord (l.cursor.peekAt 1) && (ch = '-' || (!l.inFlow && (ch = '?' || ch = ':'))))

/-- The token that starts with a character. -/
def readToken (l : Lexer) (ch : Char) : Except Refusal Lexer :=
  let c := l.cursor
  let standsAlone := endsWord (c.peekAt 1)
  if ch = '%' ∧ c.column = 0 then l.directive
  else if c.column = 0 ∧ c.isAtMark ['-', '-', '-'] then l.mark 3 .documentStart
  else if c.column = 0 ∧ c.isAtMark ['.', '.', '.'] then l.mark 3 .documentEnd
  else if ch = '[' then l.openFlow .flowSequenceStart
  else if ch = '\x7b' then l.openFlow .flowMappingStart
  else if ch = ']' then l.closeFlow .flowSequenceEnd
  else if ch = '\x7d' then l.closeFlow .flowMappingEnd
  else if ch = ',' then l.flowEntry
  else if ch = '-' ∧ standsAlone then l.blockEntry
  else if ch = '?' ∧ (l.inFlow ∨ standsAlone) then l.explicitKey
  else if ch = ':' ∧ (l.inFlow ∨ standsAlone) then l.value
  else if ch = '*' then l.name .reference
  else if ch = '&' then l.name .anchor
  else if ch = '!' then l.tag
  else if ch = '|' ∧ !l.inFlow then l.blockScalar false
  else if ch = '>' ∧ !l.inFlow then l.blockScalar true
  else if ch = '\'' ∨ ch = '"' then l.quotedScalar ch
  else if l.startsPlain ch then l.plainScalar
  else .error .malformed

/-- The tokens from here on, and the refusal that stopped the reading, if any. -/
def run : (fuel : Nat) → Lexer → List Token × Option Refusal
  | 0, l => (l.tokens.toList, some .malformed)
  | fuel + 1, l =>
    let l := skipToToken (l.cursor.rest.length + 1) l
    let stop := fun (refusal : Refusal) => (l.tokens.toList, some refusal)
    match l.dropStaleKeys with
    | .error refusal => stop refusal
    | .ok l =>
      let l := l.unwind l.cursor.column
      match l.cursor.peek with
      | none =>
        match l.finish with
        | .ok l => (l.tokens.toList, none)
        | .error refusal => stop refusal
      | some ch =>
        match l.readToken ch with
        | .ok l => run fuel l
        | .error refusal => stop refusal

end Lexer

/-- The tokens of a text, and the refusal that stopped the reading, if any. A byte order mark at the
start does not count. -/
def tokens (text : List Char) : List Token × Option Refusal :=
  let l := Lexer.start text
  let l := if text.head? = some '\uFEFF' then l.moveTo l.cursor.next else l
  l.run (text.length + 1)

end Nullability.Yaml
