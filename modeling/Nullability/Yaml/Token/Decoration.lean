import Nullability.Text.Digits
import Nullability.Text.Utf8
import Nullability.Yaml.Token

/-!
# Directives, anchors and tags in a YAML text

What may stand in front of a document and in front of a node: instructions for the whole document,
names under which a node is known, and tags, which say what a node stands for.
-/

namespace Nullability.Yaml

/-- A name, which must not be empty, and the place behind it. -/
def readName (c : Cursor) : Except Refusal (String × Cursor) :=
  match c.span isNameChar with
  | ([], _) => .error .malformed
  | (name, c) => .ok (String.ofList name, c)

/-- What may follow the name of an anchor. -/
def endsAnchor (next : Option Char) : Bool :=
  endsWord next || next.any (fun c => ['?', ':', ',', ']', '\x7d', '%', '@', '\x60'].contains c)

/-- The name behind the sign of an anchor or a reference. -/
def readAnchor (c : Cursor) : Except Refusal (String × Cursor) := do
  let (name, c) ← readName c.next
  if endsAnchor c.peek then return (name, c) else .error .malformed

/-! ## Tags -/

/-- Whether a character may stand in a tag as it is. -/
def isTagChar (c : Char) : Bool :=
  c.isAlphanum || "-;/?:@&=+$,_.!~*'()[]".toList.contains c

/-- The bytes that percent signs with two hexadecimal digits write. -/
def escapedBytes : (fuel : Nat) → Cursor → List UInt8 → Except Refusal (List UInt8 × Cursor)
  | 0, c, done => .ok (done.reverse, c)
  | fuel + 1, c, done =>
    match c.rest with
    | '%' :: a :: b :: _ =>
      match Text.hexDigit? a, Text.hexDigit? b with
      | some a, some b => escapedBytes fuel (c.skip 3) (UInt8.ofNat (16 * a + b) :: done)
      | _, _ => .error .malformed
    | '%' :: _ => .error .malformed
    | _ => .ok (done.reverse, c)

/-- The text of a tag from here on; `done` is what stands before. -/
def tagTextFrom : (fuel : Nat) → Cursor → (done : String) → Except Refusal (String × Cursor)
  | 0, c, done => .ok (done, c)
  | fuel + 1, c, done =>
    let (plain, c) := c.span isTagChar
    let done := done ++ String.ofList plain
    if c.peek = some '%' then do
      let (bytes, c) ← escapedBytes c.rest.length c []
      match Text.ofUtf8? bytes with
      | some text => tagTextFrom fuel c (done ++ text)
      | none => .error .malformed
    else .ok (done, c)

/-- The text of a tag, which must not be empty. -/
def readTagText (c : Cursor) : Except Refusal (String × Cursor) := do
  let (text, after) ← tagTextFrom c.rest.length c ""
  if after.index = c.index then .error .malformed else return (text, after)

/-- A tag handle: an exclamation mark, or a name between two of them. -/
def readTagHandle (c : Cursor) : Except Refusal (String × Cursor) :=
  if c.peek ≠ some '!' then .error .malformed
  else if c.peekAt 1 = some ' ' then .ok ("!", c.next)
  else
    let (name, after) := c.next.span isNameChar
    if after.peek = some '!' then .ok ("!" ++ String.ofList name ++ "!", after.next)
    else .error .malformed

/-- A tag in its short or its full form. -/
def readTag (c : Cursor) : Except Refusal (Token × Cursor) := do
  let (token, c) ←
    if c.peekAt 1 = some '<' then do
      let (text, c) ← readTagText (c.skip 2)
      if c.peek = some '>' then pure (Token.tag none text, c.next) else .error .malformed
    else if endsWord (c.peekAt 1) then pure (Token.tag none "!", c.next)
    else do
      let word := c.next.rest.takeWhile (fun ch => ch ≠ ' ' && !isBreak ch)
      let (handle, c) ← if word.contains '!' then readTagHandle c else pure ("!", c.next)
      let (text, c) ← readTagText c
      pure (Token.tag (some handle) text, c)
  if endsField c.peek then return (token, c) else .error .malformed

/-! ## Directives -/

/-- A run of digits as a number. -/
def readNumber (c : Cursor) : Except Refusal (Nat × Cursor) :=
  match c.span Char.isDigit with
  | ([], _) => .error .malformed
  | (digits, c) =>
    if digitLimit < digits.length then .error .badValue else .ok (Text.decimalNumber digits, c)

/-- The version that a directive states. -/
def readVersion (c : Cursor) : Except Refusal (Directive × Cursor) := do
  let (major, c) ← readNumber c.skipBlanks
  if c.peek = some '.' then
    let (minor, c) ← readNumber c.next
    if endsField c.peek then return (.version major minor, c) else .error .malformed
  else .error .malformed

/-- The tag handle that a directive defines. -/
def readHandleDefinition (c : Cursor) : Except Refusal (Directive × Cursor) := do
  let (handle, c) ← readTagHandle c.skipBlanks
  if c.peek = some ' ' then
    let (start, c) ← readTagText c.skipBlanks
    if endsField c.peek then return (.tagHandle handle start, c) else .error .malformed
  else .error .malformed

/-- A directive; the cursor is at its sign. Directives of other names are passed over. -/
def readDirective (c : Cursor) : Except Refusal (Directive × Cursor) := do
  let (name, c) ← readName c.next
  if !endsField c.peek then .error .malformed
  else
    let (directive, c) ←
      if name = "YAML" then readVersion c
      else if name = "TAG" then readHandleDefinition c
      else pure (Directive.unknown, c.skipWhile (fun ch => !isBreak ch))
    return (directive, ← c.endOfLine)

end Nullability.Yaml
