import Nullability.Text.Digits
import Nullability.Text.Printable

/-!
# Quoted texts

Reports show texts and byte strings as quoted literals on one line. The mark is an apostrophe,
unless the content has apostrophes and no quotation mark. The mark and the backslash are escaped by
a backslash, line feed, carriage return and tab by letters, and everything that is not printable by
its number in hexadecimal.
-/

namespace Nullability.Text

/-- The quotation mark for a content. -/
def quoteMark (hasApostrophe hasQuotation : Bool) : Char :=
  if hasApostrophe && !hasQuotation then '"' else '\''

/-- The escape of an unprintable character: two, four or eight hexadecimal digits. -/
def numericEscape (n : Nat) : List Char :=
  if n < 0x100 then '\\' :: 'x' :: hexadecimal 2 n
  else if n < 0x10000 then '\\' :: 'u' :: hexadecimal 4 n
  else '\\' :: 'U' :: hexadecimal 8 n

/-- The form of one character between the marks. -/
def quotedChar (mark : Char) (c : Char) : List Char :=
  if c = mark ∨ c = '\\' then ['\\', c]
  else if c = '\n' then ['\\', 'n']
  else if c = '\r' then ['\\', 'r']
  else if c = '\t' then ['\\', 't']
  else if isPrintable c then [c]
  else numericEscape c.toNat

/-- A text as a quoted literal. -/
def quoted (s : String) : String :=
  let cs := s.toList
  let mark := quoteMark (cs.contains '\'') (cs.contains '"')
  String.ofList (mark :: cs.flatMap (quotedChar mark) ++ [mark])

/-- The form of one byte between the marks: ASCII is shown, all else by number. -/
def quotedByte (mark : Char) (b : UInt8) : List Char :=
  if b.toNat < 128 then quotedChar mark (Char.ofNat b.toNat) else numericEscape b.toNat

/-- A byte string as a quoted literal, marked by a leading `b`. -/
def quotedBytes (bytes : List UInt8) : String :=
  let mark := quoteMark (bytes.contains 39) (bytes.contains 34)
  String.ofList ('b' :: mark :: bytes.flatMap (quotedByte mark) ++ [mark])

end Nullability.Text
