import Nullability.Cache.Message
import Nullability.Power

/-!
# Reading messages

One value from the start of some bytes. Every form of the format is read, not only the shortest.
Reading fails where bytes are missing, where a text is not UTF-8, where containers nest too deeply,
and at once where a container is said to have more items than there can be in all the bytes; and,
differently, where a list or a map is the key of a map.
-/

namespace Nullability.Cache.Message

/-- Why a value cannot be read. -/
inductive ReadFault where
  /-- The bytes are not in the format. -/
  | malformed
  /-- A key of a map is a list or a map. -/
  | badKey
  deriving DecidableEq, Repr, Inhabited

/-- How many containers may be inside each other. -/
def depthLimit : Nat := 1024

/-- Bytes as a number, the highest byte first. -/
def ofBigEndian (input : List UInt8) : Nat :=
  input.foldl (fun n b => 256 * n + b.toNat) 0

/-- The first bytes and the rest, if there are enough. -/
def take? (count : Nat) (input : List UInt8) : Except ReadFault (List UInt8 × List UInt8) :=
  let taken := input.take count
  if taken.length < count then .error .malformed else .ok (taken, input.drop count)

/-- A natural number in big-endian bytes. -/
def takeNat (count : Nat) (input : List UInt8) : Except ReadFault (Nat × List UInt8) := do
  let (taken, rest) ← take? count input
  return (ofBigEndian taken, rest)

/-- The number in two's complement that a natural number below `2 ^ (8 * count)` stands for. -/
def signed (count n : Nat) : Int :=
  if n < twoTo (8 * count - 1) then n else (n : Int) - twoTo (8 * count)

/-- An integer in two's complement. -/
def takeInt (count : Nat) (input : List UInt8) : Except ReadFault (Message × List UInt8) := do
  let (n, rest) ← takeNat count input
  return (.int (signed count n), rest)

/-- A text of some bytes. -/
def takeText (length : Nat) (input : List UInt8) : Except ReadFault (Message × List UInt8) := do
  let (content, rest) ← take? length input
  match Text.ofUtf8? content with
  | some s => return (.text s, rest)
  | none => .error .malformed

/-- Some bytes as they are. -/
def takeBytes (length : Nat) (input : List UInt8) : Except ReadFault (Message × List UInt8) := do
  let (content, rest) ← take? length input
  return (.bytes content, rest)

/-- A point in time in 4, 8 or 12 bytes; nanoseconds make less than a second. -/
def timestampOf (content : List UInt8) : Except ReadFault Message :=
  let made := fun (seconds : Int) (nanoseconds : Nat) =>
    if nanoseconds < 1000000000 then .ok (Message.timestamp seconds nanoseconds)
    else .error .malformed
  match content.length with
  | 4 => made (ofBigEndian content) 0
  | 8 =>
    let n := ofBigEndian content
    made (n % 0x400000000 : Nat) (n / 0x400000000)
  | 12 => made (signed 8 (ofBigEndian (content.drop 4))) (ofBigEndian (content.take 4))
  | _ => .error .malformed

/-- A value of an application's own type. Of the types below zero only -1 has values; it is that of
points in time. -/
def takeExtension (length : Nat) (input : List UInt8) :
    Except ReadFault (Message × List UInt8) := do
  let (type, rest) ← takeNat 1 input
  let (content, rest) ← take? length rest
  if signed 1 type = -1 then return (← timestampOf content, rest)
  else if signed 1 type < 0 then .error .malformed
  else return (.extension (signed 1 type) content, rest)

mutual

/-- One value and the rest, from `size` bytes in all; `fuel` bounds the number of values and `depth`
counts the containers around it. -/
def takeValue (size : Nat) : (fuel depth : Nat) → List UInt8 → Except ReadFault (Message × List UInt8)
  | 0, _, _ => .error .malformed
  | _, _, [] => .error .malformed
  | fuel + 1, depth, head :: rest =>
    let h := head.toNat
    if h < 0x80 then .ok (.int h, rest)
    else if h < 0x90 then takeMap size fuel depth (h - 0x80) rest
    else if h < 0xa0 then takeList size fuel depth (h - 0x90) rest
    else if h < 0xc0 then takeText (h - 0xa0) rest
    else if 0xe0 ≤ h then .ok (.int ((h : Int) - 256), rest)
    else
      match h with
      | 0xc0 => .ok (.nil, rest)
      | 0xc2 => .ok (.bool false, rest)
      | 0xc3 => .ok (.bool true, rest)
      | 0xc4 => do let (n, rest) ← takeNat 1 rest; takeBytes n rest
      | 0xc5 => do let (n, rest) ← takeNat 2 rest; takeBytes n rest
      | 0xc6 => do let (n, rest) ← takeNat 4 rest; takeBytes n rest
      | 0xc7 => do let (n, rest) ← takeNat 1 rest; takeExtension n rest
      | 0xc8 => do let (n, rest) ← takeNat 2 rest; takeExtension n rest
      | 0xc9 => do let (n, rest) ← takeNat 4 rest; takeExtension n rest
      | 0xca => do let (n, rest) ← takeNat 4 rest; .ok (.real (Binary64.ofBits32 n), rest)
      | 0xcb => do let (n, rest) ← takeNat 8 rest; .ok (.real (Binary64.ofBits n), rest)
      | 0xcc => do let (n, rest) ← takeNat 1 rest; .ok (.int n, rest)
      | 0xcd => do let (n, rest) ← takeNat 2 rest; .ok (.int n, rest)
      | 0xce => do let (n, rest) ← takeNat 4 rest; .ok (.int n, rest)
      | 0xcf => do let (n, rest) ← takeNat 8 rest; .ok (.int n, rest)
      | 0xd0 => takeInt 1 rest
      | 0xd1 => takeInt 2 rest
      | 0xd2 => takeInt 4 rest
      | 0xd3 => takeInt 8 rest
      | 0xd4 => takeExtension 1 rest
      | 0xd5 => takeExtension 2 rest
      | 0xd6 => takeExtension 4 rest
      | 0xd7 => takeExtension 8 rest
      | 0xd8 => takeExtension 16 rest
      | 0xd9 => do let (n, rest) ← takeNat 1 rest; takeText n rest
      | 0xda => do let (n, rest) ← takeNat 2 rest; takeText n rest
      | 0xdb => do let (n, rest) ← takeNat 4 rest; takeText n rest
      | 0xdc => do let (n, rest) ← takeNat 2 rest; takeList size fuel depth n rest
      | 0xdd => do let (n, rest) ← takeNat 4 rest; takeList size fuel depth n rest
      | 0xde => do let (n, rest) ← takeNat 2 rest; takeMap size fuel depth n rest
      | 0xdf => do let (n, rest) ← takeNat 4 rest; takeMap size fuel depth n rest
      | _ => .error .malformed

/-- A list of some items. An item takes a byte at least. -/
def takeList (size : Nat) : (fuel depth length : Nat) → List UInt8 → Except ReadFault (Message × List UInt8)
  | 0, _, _, _ => .error .malformed
  | fuel + 1, depth, length, input =>
    if depthLimit ≤ depth ∨ size < length then .error .malformed
    else takeItems size fuel (depth + 1) length [] input

/-- The items of a list; those read so far are kept newest first. -/
def takeItems (size : Nat) : (fuel depth left : Nat) → (done : List Message) → List UInt8 →
    Except ReadFault (Message × List UInt8)
  | 0, _, _, _, _ => .error .malformed
  | _, _, 0, done, input => .ok (.list done.reverse, input)
  | fuel + 1, depth, left + 1, done, input =>
    match takeValue size fuel depth input with
    | .ok (v, rest) => takeItems size fuel depth left (v :: done) rest
    | .error fault => .error fault

/-- A map of some entries. An entry takes two bytes at least. -/
def takeMap (size : Nat) : (fuel depth length : Nat) → List UInt8 → Except ReadFault (Message × List UInt8)
  | 0, _, _, _ => .error .malformed
  | fuel + 1, depth, length, input =>
    if depthLimit ≤ depth ∨ size / 2 < length then .error .malformed
    else takeEntries size fuel (depth + 1) length [] input

/-- The entries of a map; a key that comes again replaces the value. -/
def takeEntries (size : Nat) : (fuel depth left : Nat) → (done : List (Message × Message)) → List UInt8 →
    Except ReadFault (Message × List UInt8)
  | 0, _, _, _, _ => .error .malformed
  | _, _, 0, done, input => .ok (.map done, input)
  | fuel + 1, depth, left + 1, done, input =>
    match takeValue size fuel depth input with
    | .error fault => .error fault
    | .ok (k, rest) =>
      match takeValue size fuel depth rest with
      | .error fault => .error fault
      | .ok (v, rest) =>
        if k.isKey then takeEntries size fuel depth left (store k v done) rest else .error .badKey

end

/-- The one value that some bytes hold from first to last. -/
def read (input : List UInt8) : Except ReadFault Message :=
  match takeValue input.length (4 * input.length + 8) 0 input with
  | .ok (v, []) => .ok v
  | .ok _ => .error .malformed
  | .error fault => .error fault

end Nullability.Cache.Message
