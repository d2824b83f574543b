import Nullability.Text.Digits
import Nullability.Yaml.Cursor

/-!
# Scalars in a YAML text

The three ways to write a scalar: plain, between quotation marks, and as a block of lines. Each is
read from a cursor to the text it stands for, where the end of a line in the middle of a plain or
quoted scalar, or of a folded block, counts as a blank unless empty lines follow.
-/

namespace Nullability.Yaml.Scalar

/-! ## Plain scalars -/

/-- The characters up to the end of a plain word. A colon belongs to it unless a word ends behind
the colon; inside brackets, punctuation ends it as well. -/
def plainWord (inFlow : Bool) : List Char → List Char
  | [] => []
  | c :: rest =>
    let colonEnds := c = ':' && (endsWord rest.head? ||
      (inFlow && rest.head?.any (fun d => [',', '[', ']', '\x7b', '\x7d'].contains d)))
    let bracketEnds := inFlow && [',', '?', '[', ']', '\x7b', '\x7d'].contains c
    if isSpace c || colonEnds || bracketEnds then [] else c :: plainWord inFlow rest

/-- What stands between two words of a plain scalar: the text it counts for, the place behind it,
and whether it crosses the end of a line. -/
structure Gap where
  text : List Char
  cursor : Cursor
  crossesLine : Bool

/-- The empty lines from here on and the place behind them; nothing if a document is marked on the
way. Blanks between the line ends are passed over. -/
def plainBreaks : (fuel : Nat) → Cursor → List Char → Option (List Char) × Cursor
  | 0, c, done => (some done.reverse, c)
  | fuel + 1, c, done =>
    match c.peek with
    | some ' ' => plainBreaks fuel c.next done
    | some ch =>
      if isBreak ch then
        let (text, after) := c.lineBreak
        if after.isAtDocumentMark then (none, after)
        else plainBreaks fuel after (text.reverse ++ done)
      else (some done.reverse, c)
    | none => (some done.reverse, c)

/-- The text that a line end and the empty lines behind it count for: a single ordinary line end
counts as a blank. -/
def foldedBreaks (first breaks : List Char) : List Char :=
  if first ≠ ['\n'] then first ++ breaks
  else if breaks.isEmpty then [' ']
  else breaks

/-- What stands behind a word of a plain scalar. -/
def plainGap (c : Cursor) : Gap :=
  let (blanks, c) := c.span (fun ch => ch = ' ')
  if c.peek.any isBreak then
    let (first, c) := c.lineBreak
    if c.isAtDocumentMark then ⟨[], c, true⟩
    else
      match plainBreaks c.rest.length c [] with
      | (none, c) => ⟨[], c, true⟩
      | (some breaks, c) => ⟨foldedBreaks first breaks, c, true⟩
  else ⟨blanks, c, false⟩

/-- The words of a plain scalar from here on; `done` and `gap` are what stands before, newest
first. Besides the text and the place behind it, tells whether the last gap crossed the end of a
line. -/
def plainFrom (inFlow : Bool) (indent : Int) : (fuel : Nat) → (done gap : List Char) →
    (crossed : Bool) → Cursor → String × Cursor × Bool
  | 0, done, _, crossed, c => (String.ofList done.reverse, c, crossed)
  | fuel + 1, done, gap, crossed, c =>
    let word := plainWord inFlow c.rest
    if c.peek = some '#' ∨ word = [] then (String.ofList done.reverse, c, crossed)
    else
      let done := word.reverse ++ (gap ++ done)
      let found := plainGap (c.skip word.length)
      if found.text.isEmpty || found.cursor.peek = some '#' ||
          (!inFlow && (found.cursor.column : Int) < indent) then
        (String.ofList done.reverse, found.cursor, found.crossesLine)
      else plainFrom inFlow indent fuel done found.text.reverse found.crossesLine found.cursor

/-- A plain scalar; its lines must be indented at least as given. -/
def plain (inFlow : Bool) (indent : Int) (c : Cursor) : String × Cursor × Bool :=
  plainFrom inFlow indent c.rest.length [] [] false c

/-! ## Quoted scalars -/

/-- The character of a one-letter escape. -/
def shortEscape? : Char → Option Char
  | '0' => some '\x00'
  | 'a' => some '\x07'
  | 'b' => some '\x08'
  | 't' | '\t' => some '\t'
  | 'n' => some '\n'
  | 'v' => some '\x0b'
  | 'f' => some '\x0c'
  | 'r' => some '\r'
  | 'e' => some '\x1b'
  | ' ' => some ' '
  | '"' => some '"'
  | '\\' => some '\\'
  | '/' => some '/'
  | 'N' => some '\u0085'
  | '_' => some '\u00a0'
  | 'L' => some '\u2028'
  | 'P' => some '\u2029'
  | _ => none

/-- How many hexadecimal digits follow an escape. -/
def escapeLength? : Char → Option Nat
  | 'x' => some 2
  | 'u' => some 4
  | 'U' => some 8
  | _ => none

/-- The number of some hexadecimal digits. -/
def hexNumber? (digits : List Char) : Option Nat :=
  digits.foldlM (fun n c => (Text.hexDigit? c).map (fun d => 16 * n + d)) 0

/-- The character with a number; half of a pair becomes a replacement character. -/
def escapedChar (n : Nat) : Except Refusal Char :=
  if 0x110000 ≤ n then .error .badValue
  else if 0xD800 ≤ n ∧ n < 0xE000 then .ok '\uFFFD'
  else .ok (Char.ofNat n)

/-- The empty lines in a quoted scalar from here on. A document must not be marked there. -/
def quotedBreaks : (fuel : Nat) → Cursor → List Char → Except Refusal (List Char × Cursor)
  | 0, _, _ => .error .malformed
  | fuel + 1, c, done =>
    if c.isAtDocumentMark then .error .malformed
    else
      let c := c.skipWhile (fun ch => ch = ' ' || ch = '\t')
      if c.peek.any isBreak then
        let (text, c) := c.lineBreak
        quotedBreaks fuel c (text.reverse ++ done)
      else .ok (done.reverse, c)

/-- The text of blanks and line ends in a quoted scalar. -/
def quotedGap (c : Cursor) : Except Refusal (List Char × Cursor) :=
  let (blanks, c) := c.span (fun ch => ch = ' ' || ch = '\t')
  if c.peek.any isBreak then do
    let (first, c) := c.lineBreak
    let (breaks, c) ← quotedBreaks (c.rest.length + 1) c []
    return (foldedBreaks first breaks, c)
  else .ok (blanks, c)

/-- What an escape stands for; the cursor is behind the backslash. -/
def escape (c : Cursor) : Except Refusal (List Char × Cursor) :=
  match c.peek with
  | none => .error .malformed
  | some ch =>
    match shortEscape? ch, escapeLength? ch with
    | some e, _ => .ok ([e], c.next)
    | none, some length =>
      let digits := c.next.rest.take length
      match hexNumber? digits with
      | some n =>
        if digits.length < length then .error .malformed
        else (escapedChar n).map (fun e => ([e], c.skip (length + 1)))
      | none => .error .malformed
    | none, none =>
      if isBreak ch then
        let c := c.lineBreak.2
        quotedBreaks (c.rest.length + 1) c []
      else .error .malformed

/-- The rest of a quoted scalar; `done` is what stands before, newest first. -/
def quotedFrom (mark : Char) : (fuel : Nat) → (done : List Char) → Cursor →
    Except Refusal (String × Cursor)
  | 0, _, _ => .error .malformed
  | fuel + 1, done, c =>
    match c.peek with
    | none => .error .malformed
    | some ch =>
      if ch = mark then
        if mark = '\'' ∧ c.peekAt 1 = some '\'' then quotedFrom mark fuel ('\'' :: done) (c.skip 2)
        else .ok (String.ofList done.reverse, c.next)
      else if mark = '"' ∧ ch = '\\' then do
        let (text, c) ← escape c.next
        quotedFrom mark fuel (text.reverse ++ done) c
      else if isSpace ch then do
        let (text, c) ← quotedGap c
        quotedFrom mark fuel (text.reverse ++ done) c
      else quotedFrom mark fuel (ch :: done) c.next

/-- A scalar between quotation marks of the given kind; the cursor is at the first one. -/
def quoted (mark : Char) (c : Cursor) : Except Refusal (String × Cursor) :=
  quotedFrom mark (c.rest.length + 1) [] c.next

/-! ## Blocks of lines -/

/-- What becomes of the line ends at the end of a block. -/
inductive Chomping where
  | strip
  | clip
  | keep
  deriving DecidableEq

/-- The signs behind the start of a block: how to treat its end, and how much deeper it is
indented than what it belongs to. -/
def blockHeader (c : Cursor) : Except Refusal (Chomping × Option Nat × Cursor) :=
  let chomping? := fun (c : Cursor) =>
    match c.peek with
    | some '+' => some Chomping.keep
    | some '-' => some Chomping.strip
    | _ => none
  let depth? := fun (c : Cursor) => c.peek.bind Text.asciiDigit?
  let (chomping, depth, c) :=
    match chomping? c with
    | some chomping =>
      match depth? c.next with
      | some depth => (chomping, some depth, c.skip 2)
      | none => (chomping, none, c.next)
    | none =>
      match depth? c with
      | some depth =>
        match chomping? c.next with
        | some chomping => (chomping, some depth, c.skip 2)
        | none => (Chomping.clip, some depth, c.next)
      | none => (Chomping.clip, none, c)
  if depth = some 0 ∨ !endsField c.peek then .error .malformed else .ok (chomping, depth, c)

/-- The empty lines in front of a block whose indentation is not given, and the greatest column
that their blanks reach. -/
def blockStart : (fuel : Nat) → (done : List Char) → (deepest : Nat) → Cursor →
    List Char × Nat × Cursor
  | 0, done, deepest, c => (done.reverse, deepest, c)
  | fuel + 1, done, deepest, c =>
    match c.peek with
    | some ' ' => blockStart fuel done (max deepest c.next.column) c.next
    | some ch =>
      if isBreak ch then
        let (text, c) := c.lineBreak
        blockStart fuel (text.reverse ++ done) deepest c
      else (done.reverse, deepest, c)
    | none => (done.reverse, deepest, c)

/-- The place behind the blanks of a line, but not beyond the indentation. -/
def skipIndent (indent : Nat) : (fuel : Nat) → Cursor → Cursor
  | 0, c => c
  | fuel + 1, c =>
    if c.column < indent ∧ c.peek = some ' ' then skipIndent indent fuel c.next else c

/-- The empty lines between two lines of a block, and the place where the second one starts. -/
def blockBreaks (indent : Nat) : (fuel : Nat) → (done : List Char) → Cursor → List Char × Cursor
  | 0, done, c => (done.reverse, c)
  | fuel + 1, done, c =>
    let c := skipIndent indent indent c
    if c.peek.any isBreak then
      let (text, c) := c.lineBreak
      blockBreaks indent fuel (text.reverse ++ done) c
    else (done.reverse, c)

/-- The text at the end of a block: its last line end and the empty lines behind it. -/
def blockEnd (chomping : Chomping) (last breaks : List Char) : List Char :=
  match chomping with
  | .strip => []
  | .clip => last
  | .keep => last ++ breaks

/-- The lines of a block from here on; `done` is what stands before, newest first, and `breaks`
the empty lines between that and the cursor. -/
def blockLines (folded : Bool) (chomping : Chomping) (indent : Nat) : (fuel : Nat) →
    (done last breaks : List Char) → Cursor → String × Cursor
  | 0, done, _, _, c => (String.ofList done.reverse, c)
  | fuel + 1, done, last, breaks, c =>
    if c.column = indent ∧ c.peek.isSome then
      let startsWithSpace := fun (c : Cursor) => c.peek.any (fun ch => ch = ' ' || ch = '\t')
      let (line, after) := c.span (fun ch => !isBreak ch)
      let done := line.reverse ++ (breaks.reverse ++ done)
      let (last, after) := after.lineBreak
      let (breaks, after) := blockBreaks indent (after.rest.length + 1) [] after
      if after.column = indent ∧ after.peek.isSome then
        let join :=
          if folded && last = ['\n'] && !startsWithSpace c && !startsWithSpace after then
            if breaks.isEmpty then [' '] else []
          else last
        blockLines folded chomping indent fuel (join.reverse ++ done) last breaks after
      else (String.ofList (done.reverse ++ blockEnd chomping last breaks), after)
    else (String.ofList (done.reverse ++ blockEnd chomping last breaks), c)

/-- A scalar of several lines below something that is indented as given; the cursor is at its
sign. -/
def block (folded : Bool) (outer : Int) (c : Cursor) : Except Refusal (String × Cursor) := do
  let (chomping, depth, c) ← blockHeader c.next
  let c ← c.endOfLine
  let least := (max (outer + 1) 1).toNat
  let (breaks, indent, c) :=
    match depth with
    | some depth =>
      let indent := least + depth - 1
      let (breaks, c) := blockBreaks indent (c.rest.length + 1) [] c
      (breaks, indent, c)
    | none =>
      let (breaks, deepest, c) := blockStart c.rest.length [] 0 c
      (breaks, max least deepest, c)
  return blockLines folded chomping indent (c.rest.length + 1) [] [] breaks c

end Nullability.Yaml.Scalar
